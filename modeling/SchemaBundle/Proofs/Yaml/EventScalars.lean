import SchemaBundle.Yaml.Document

/-!
# Scalars among the events of a document

Reading nodes makes no scalars up: each is one of the tokens, or stands for a node that is not
written. What is kept by every reader is said once for the operations that they consist of, and
then of all readers together, by induction on the number of rounds.

* `Event.Keeps`: a reader leaves only such scalars behind
* `Event.readers_keep`: every reader of nodes does
* `Document.from_of_mem_events`: the scalars of a document
-/

namespace SchemaBundle.Yaml

namespace Event

variable {given : List Token} {α β : Type}

/-- A scalar is one of the given tokens, or stands for a node that is not written. -/
def From (given : List Token) : Event → Prop
  | .scalar _ text writing => .scalar text writing ∈ given ∨ (text = "" ∧ writing = .plain)
  | _ => True

/-- The tokens left are given ones, and so are the scalars found. -/
structure State.Within (given : List Token) (state : State) : Prop where
  tokens : ∀ token ∈ state.tokens, token ∈ given
  found : ∀ event ∈ state.found, event.From given

/-- Whether it stops or not, a reader finds only scalars that are given. -/
def Keeps (given : List Token) (reader : Parse α) : Prop :=
  ∀ state : State, state.Within given → (reader.run.run state).2.Within given

/-! ## Operations -/

theorem keeps_pure (a : α) : Keeps given (pure a : Parse α) :=
  fun _ h => h

theorem keeps_throw : Keeps given (throw () : Parse α) :=
  fun _ h => h

theorem keeps_get {next : State → Parse α}
    (h : ∀ state : State, state.Within given → Keeps given (next state)) :
    Keeps given (get >>= next) :=
  fun state hstate => h state hstate state hstate

theorem keeps_set {state : State} (h : state.Within given) : Keeps given (set state : Parse Unit) :=
  fun _ _ => h

theorem keeps_bind {first : Parse α} {next : α → Parse β} (hfirst : Keeps given first)
    (hnext : ∀ a, Keeps given (next a)) : Keeps given (first >>= next) := by
  intro state h
  have hafter := hfirst state h
  have hrun : (first >>= next).run.run state =
      match first.run.run state with
      | (.ok a, after) => (next a).run.run after
      | (.error e, after) => (.error e, after) := by
    simp only [ExceptT.run_bind, StateT.run_bind]
    rcases first.run.run state with ⟨_ | _, _⟩ <;> rfl
  rw [hrun]
  -- where the first reader stops, what it found is kept
  split
  · next a after heq =>
    rw [heq] at hafter
    exact hnext a after hafter
  · next e after heq =>
    rw [heq] at hafter
    exact hafter

theorem keeps_ite {p : Prop} [Decidable p] {first second : Parse α} (hfirst : Keeps given first)
    (hsecond : Keeps given second) : Keeps given (if p then first else second) := by
  split
  · exact hfirst
  · exact hsecond

/-- What follows may rely on the next token being a given one. -/
theorem keeps_peek {next : Token → Parse α} (h : ∀ token ∈ given, Keeps given (next token)) :
    Keeps given (peek >>= next) := by
  intro state hstate
  rcases state with ⟨_ | ⟨token, rest⟩, found, handles⟩
  · exact hstate
  · exact h token (hstate.tokens token List.mem_cons_self) _ hstate

theorem keeps_advance : Keeps given advance := by
  intro state h
  exact ⟨fun token hmem => h.tokens token (List.mem_of_mem_tail hmem), h.found⟩

theorem keeps_emit {event : Event} (hfrom : event.From given) : Keeps given (emit event) := by
  intro state h
  refine ⟨h.tokens, fun e hmem => ?_⟩
  rcases List.mem_cons.mp hmem with rfl | hmem
  · exact hfrom
  · exact h.found e hmem

theorem keeps_emitEmpty : Keeps given emitEmpty :=
  keeps_emit (.inr ⟨rfl, rfl⟩)

/-! ## Properties -/

theorem keeps_fullTag (tag : TagText) : Keeps given (fullTag tag) := by
  unfold fullTag
  split
  · exact keeps_pure _
  · refine keeps_get fun state _ => ?_
    split
    · exact keeps_pure _
    · exact keeps_throw

/-- An anchor is looked for before a tag, and after it if none was found before. -/
theorem keeps_eitherOrder {anchor : Parse (Option String)} {tag : Parse (Option TagText)}
    {next : Option TagText → Option String → Parse Properties} (hanchor : Keeps given anchor)
    (htag : Keeps given tag) (hnext : ∀ tag anchor, Keeps given (next tag anchor)) :
    Keeps given (anchor >>= fun before => tag >>= fun tag =>
      if before.isSome ∨ tag.isNone then pure before >>= next tag else anchor >>= next tag) :=
  keeps_bind hanchor fun before => keeps_bind htag fun tag =>
    keeps_ite (keeps_bind (keeps_pure before) (hnext tag)) (keeps_bind hanchor (hnext tag))

theorem keeps_properties : Keeps given properties := by
  unfold properties
  refine keeps_eitherOrder (keeps_peek fun token _ => ?_) (keeps_peek fun token _ => ?_)
    fun tag anchor => ?_
  · split
    · exact keeps_bind keeps_advance fun _ => keeps_pure _
    · exact keeps_pure _
  · split
    · exact keeps_bind keeps_advance fun _ => keeps_pure _
    · exact keeps_pure _
  · split
    · exact keeps_pure _
    · exact keeps_bind (keeps_fullTag _) fun _ => keeps_pure _

/-! ## Nodes -/

/-- Every reader of nodes keeps what is said, within so many rounds. -/
structure ReadersKeep (given : List Token) (bound : Nat) : Prop where
  node : ∀ place, Keeps given (node bound place)
  blockItems : Keeps given (blockItems bound)
  looseItems : Keeps given (looseItems bound)
  blockEntries : Keeps given (blockEntries bound)
  flowItems : ∀ first, Keeps given (flowItems bound first)
  flowItem : Keeps given (flowItem bound)
  flowPair : Keeps given (flowPair bound)
  flowEntries : ∀ first, Keeps given (flowEntries bound first)
  flowKey : Keeps given (flowKey bound)

theorem keeps_emptyNode (properties : Properties) : Keeps given (emptyNode properties) := by
  unfold emptyNode
  exact keeps_ite (keeps_emit (.inr ⟨rfl, rfl⟩)) keeps_throw

theorem keeps_node {bound : Nat} (ih : ReadersKeep given bound) (place : Place) :
    Keeps given (node (bound + 1) place) := by
  unfold node
  refine keeps_peek fun token _ => ?_
  split
  · exact keeps_bind (keeps_emit trivial) fun _ => keeps_advance
  · -- the only token that becomes a scalar is one that is given
    refine keeps_bind keeps_properties fun properties => keeps_peek fun token hmem => ?_
    split
    · exact keeps_bind (keeps_emit (.inl hmem)) fun _ => keeps_advance
    · exact keeps_bind (keeps_emit trivial) fun _ => keeps_bind keeps_advance fun _ =>
        ih.flowItems true
    · exact keeps_bind (keeps_emit trivial) fun _ => keeps_bind keeps_advance fun _ =>
        ih.flowEntries true
    · exact keeps_ite (keeps_bind (keeps_emit trivial) fun _ => ih.looseItems)
        (keeps_emptyNode properties)
    · exact keeps_ite (keeps_emptyNode properties) (keeps_bind (keeps_emit trivial) fun _ =>
        keeps_bind keeps_advance fun _ => ih.blockItems)
    · exact keeps_ite (keeps_emptyNode properties) (keeps_bind (keeps_emit trivial) fun _ =>
        keeps_bind keeps_advance fun _ => ih.blockEntries)
    · exact keeps_emptyNode properties

theorem keeps_blockItems {bound : Nat} (ih : ReadersKeep given bound) :
    Keeps given (blockItems (bound + 1)) := by
  unfold blockItems
  refine keeps_peek fun token _ => ?_
  split
  · refine keeps_bind keeps_advance fun _ => keeps_peek fun token _ => ?_
    simp only
    split
    · exact keeps_bind keeps_emitEmpty fun _ => ih.blockItems
    · exact keeps_bind keeps_emitEmpty fun _ => ih.blockItems
    · exact keeps_bind (ih.node .block) fun _ => ih.blockItems
  · exact keeps_bind (keeps_emit trivial) fun _ => keeps_advance
  · exact keeps_throw

theorem keeps_looseItems {bound : Nat} (ih : ReadersKeep given bound) :
    Keeps given (looseItems (bound + 1)) := by
  unfold looseItems
  refine keeps_peek fun token _ => ?_
  split
  · refine keeps_bind keeps_advance fun _ => keeps_peek fun token _ => ?_
    simp only
    split
    · exact keeps_bind keeps_emitEmpty fun _ => ih.looseItems
    · exact keeps_bind keeps_emitEmpty fun _ => ih.looseItems
    · exact keeps_bind keeps_emitEmpty fun _ => ih.looseItems
    · exact keeps_bind keeps_emitEmpty fun _ => ih.looseItems
    · exact keeps_bind (ih.node .block) fun _ => ih.looseItems
  · exact keeps_emit trivial

theorem keeps_blockEntries {bound : Nat} (ih : ReadersKeep given bound) :
    Keeps given (blockEntries (bound + 1)) := by
  have hnode := ih.node .mapping
  unfold blockEntries
  refine keeps_peek fun token _ => ?_
  split
  · refine keeps_bind keeps_advance fun _ => keeps_peek fun token _ => ?_
    simp only
    -- the key, if it is written, and then the value
    split
    all_goals
      refine keeps_bind (by first | exact keeps_emitEmpty | exact hnode) fun _ =>
        keeps_peek fun token _ => ?_
      split
      · refine keeps_bind keeps_advance fun _ => keeps_peek fun token _ => ?_
        split
        all_goals
          refine keeps_bind ?_ fun _ => ih.blockEntries
          first | exact keeps_emitEmpty | exact hnode
      · exact keeps_bind keeps_emitEmpty fun _ => ih.blockEntries
  · exact keeps_bind (keeps_emit trivial) fun _ => keeps_advance
  · exact keeps_throw

theorem keeps_flowItems {bound : Nat} (ih : ReadersKeep given bound) (first : Bool) :
    Keeps given (flowItems (bound + 1) first) := by
  unfold flowItems
  have hnext : Keeps given (advance >>= fun _ => flowItem bound) :=
    keeps_bind keeps_advance fun _ => ih.flowItem
  refine keeps_peek fun token _ => ?_
  split
  · exact keeps_bind (keeps_emit trivial) fun _ => keeps_advance
  · exact keeps_ite (keeps_bind keeps_throw fun _ => hnext) hnext
  · exact keeps_ite ih.flowItem keeps_throw

theorem keeps_flowItem {bound : Nat} (ih : ReadersKeep given bound) :
    Keeps given (flowItem (bound + 1)) := by
  unfold flowItem
  refine keeps_peek fun token _ => ?_
  split
  · exact keeps_bind (keeps_emit trivial) fun _ => keeps_bind keeps_advance fun _ =>
      keeps_bind ih.flowPair fun _ => ih.flowItems false
  · exact keeps_bind (keeps_emit trivial) fun _ => keeps_advance
  · exact keeps_bind (ih.node .flow) fun _ => ih.flowItems false

theorem keeps_flowPair {bound : Nat} (ih : ReadersKeep given bound) :
    Keeps given (flowPair (bound + 1)) := by
  have hnode := ih.node .flow
  have hend : Keeps given (peek >>= fun _ => emit .mappingEnd) :=
    keeps_peek fun _ _ => keeps_emit trivial
  unfold flowPair
  refine keeps_peek fun token _ => ?_
  simp only
  -- the key, if it is written, and then the value
  split
  all_goals
    first
    | refine keeps_bind keeps_advance fun _ => keeps_bind keeps_emitEmpty fun _ => ?_
    | refine keeps_bind hnode fun _ => ?_
    refine keeps_peek fun token _ => ?_
    split
    · refine keeps_bind keeps_advance fun _ => keeps_peek fun token _ => ?_
      split
      all_goals
        refine keeps_bind ?_ fun _ => hend
        first | exact keeps_emitEmpty | exact hnode
    · exact keeps_bind keeps_emitEmpty fun _ => hend

theorem keeps_flowEntries {bound : Nat} (ih : ReadersKeep given bound) (first : Bool) :
    Keeps given (flowEntries (bound + 1) first) := by
  unfold flowEntries
  have hnext : Keeps given (advance >>= fun _ => flowKey bound) :=
    keeps_bind keeps_advance fun _ => ih.flowKey
  refine keeps_peek fun token _ => ?_
  split
  · exact keeps_bind (keeps_emit trivial) fun _ => keeps_advance
  · exact keeps_ite (keeps_bind keeps_throw fun _ => hnext) hnext
  · exact keeps_ite ih.flowKey keeps_throw

theorem keeps_flowKey {bound : Nat} (ih : ReadersKeep given bound) :
    Keeps given (flowKey (bound + 1)) := by
  have hnode := ih.node .flow
  unfold flowKey
  refine keeps_peek fun token _ => ?_
  split
  · exact keeps_bind (keeps_emit trivial) fun _ => keeps_advance
  · refine keeps_bind keeps_advance fun _ => keeps_peek fun token _ => ?_
    simp only
    -- the key, if it is written, and then the value
    split
    all_goals
      refine keeps_bind (by first | exact keeps_emitEmpty | exact hnode) fun _ =>
        keeps_peek fun token _ => ?_
      split
      · refine keeps_bind keeps_advance fun _ => keeps_peek fun token _ => ?_
        split
        all_goals
          refine keeps_bind ?_ fun _ => ih.flowEntries false
          first | exact keeps_emitEmpty | exact hnode
      · exact keeps_bind keeps_emitEmpty fun _ => ih.flowEntries false
  · exact keeps_bind hnode fun _ => keeps_peek fun _ _ =>
      keeps_bind keeps_emitEmpty fun _ => ih.flowEntries false

/-- Every reader of nodes leaves only scalars behind that are given. -/
theorem readers_keep (given : List Token) (bound : Nat) : ReadersKeep given bound := by
  induction bound with
  | zero => constructor <;> intros <;> exact keeps_throw
  | succ bound ih =>
    exact {
      node := keeps_node ih
      blockItems := keeps_blockItems ih
      looseItems := keeps_looseItems ih
      blockEntries := keeps_blockEntries ih
      flowItems := keeps_flowItems ih
      flowItem := keeps_flowItem ih
      flowPair := keeps_flowPair ih
      flowEntries := keeps_flowEntries ih
      flowKey := keeps_flowKey ih }

/-! ## Documents -/

theorem keeps_directives (bound : Nat) (versionSeen : Bool) :
    Keeps given (directives bound versionSeen) := by
  induction bound generalizing versionSeen with
  | zero => exact keeps_throw
  | succ bound ih =>
    unfold directives
    refine keeps_peek fun token _ => ?_
    split
    · have hnext : Keeps given (advance >>= fun _ => directives bound true) :=
        keeps_bind keeps_advance fun _ => ih true
      exact keeps_ite (keeps_bind keeps_throw fun _ => hnext) hnext
    · refine keeps_get fun state hstate => ?_
      have hnext : Keeps given (advance >>= fun _ => directives bound versionSeen) :=
        keeps_bind keeps_advance fun _ => ih versionSeen
      refine keeps_ite (keeps_bind keeps_throw fun _ => ?_) ?_
      · exact keeps_bind (keeps_set ⟨hstate.tokens, hstate.found⟩) fun _ => hnext
      · exact keeps_bind (keeps_set ⟨hstate.tokens, hstate.found⟩) fun _ => hnext
    · exact keeps_pure _

theorem keeps_documentEnd : Keeps given documentEnd := by
  unfold documentEnd
  refine keeps_peek fun token _ => ?_
  split
  · exact keeps_advance
  · exact keeps_pure _

theorem keeps_bareDocument (bound : Nat) : Keeps given (bareDocument bound) :=
  keeps_bind ((readers_keep given bound).node .block) fun _ => keeps_documentEnd

theorem keeps_explicitDocument (bound : Nat) : Keeps given (explicitDocument bound) := by
  have hnode := (readers_keep given bound).node .block
  unfold explicitDocument
  refine keeps_bind (keeps_directives bound false) fun _ => keeps_peek fun token _ => ?_
  simp only
  split
  all_goals
    refine keeps_bind (by first | exact keeps_advance | exact keeps_throw) fun _ =>
      keeps_peek fun token _ => ?_
    split
    all_goals
      refine keeps_bind ?_ fun _ => keeps_documentEnd
      first | exact keeps_emitEmpty | exact hnode

theorem Keeps.found {reader : Parse Unit} (h : Keeps given reader) {result : Except Unit Unit}
    {state : State} (hrun : reader.run.run ⟨given, [], []⟩ = (result, state)) :
    ∀ event ∈ state.found.reverse, event.From given := by
  have hafter := h ⟨given, [], []⟩ ⟨fun _ hmem => hmem, fun _ hmem => by cases hmem⟩
  rw [hrun] at hafter
  exact fun event hmem => hafter.found event (List.mem_reverse.mp hmem)

/-- The scalars among the events are tokens, or stand for nodes that are not written. -/
theorem from_of_mem_ofTokens {event : Event} (h : event ∈ (ofTokens given).events) :
    event.From given := by
  unfold ofTokens at h
  split at h
  · cases h
  · simp only at h
    split at h
    all_goals
      next state hrun =>
      refine Keeps.found ?_ hrun event h
      split
      · exact keeps_explicitDocument _
      · exact keeps_explicitDocument _
      · exact keeps_explicitDocument _
      · exact keeps_bareDocument _

end Event

/-- The scalars of a document are tokens of its text, or stand for nodes that are not written. -/
theorem Document.from_of_mem_events {text : String} {event : Event}
    (h : event ∈ (ofText text).events) : event.From (tokens text) := by
  have hmem : event ∈ (Event.ofTokens (tokens text)).events.take
      (link 0 ⟨[], [], []⟩ (Event.ofTokens (tokens text)).events).2 := by
    simpa [ofText, ofEvents] using h
  exact Event.from_of_mem_ofTokens (List.mem_of_mem_take hmem)

end SchemaBundle.Yaml
