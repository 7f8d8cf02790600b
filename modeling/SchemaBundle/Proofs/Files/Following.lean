import SchemaBundle.Files.Disk

/-!
# Where paths lead

A path leads to one place at most, whatever the disk holds: `Disk.target` is read off its names. The
disk only decides whether the way is open, which it is if the places before each name, the `spine`,
are directories. The `trail` are the places that are looked at on the way, up to the first that
does not let through; nothing else on the disk matters for where a path leads.

* `Disk.locate_eq_ok`: when a path leads somewhere, and where
* `Disk.read_congr`: what is read depends on the trail alone
-/

namespace SchemaBundle

open Files (longestName longestPath)

/-- A path that can be followed: it is not empty, has no NUL, and neither it nor a name in it is too
long. -/
structure Path.Sound (path : Path) : Prop where
  noNul : path.text.toList.contains '\x00' = false
  nonempty : path.text.isEmpty = false
  short : path.text.utf8ByteSize ≤ longestPath
  shortNames : ∀ name ∈ path.names, name.utf8ByteSize ≤ longestName

namespace Files

/-! ## Following names -/

namespace Place

/-- The place that a name leads to from another: a dot stays there, two dots lead up. -/
def descend (place : Place) (name : String) : Place :=
  if name = "." then place else if name = ".." then place.tail else name :: place

/-- The place that names lead to from another. -/
def walk (place : Place) (names : List String) : Place :=
  names.foldl descend place

/-- The places that stand before each of the names on the way. -/
def spine : Place → List String → List Place
  | _, [] => []
  | place, name :: rest => place :: spine (descend place name) rest

@[simp] theorem descend_dot (place : Place) : descend place "." = place := by
  simp [descend]

theorem walk_append (place : Place) (names more : List String) :
    walk place (names ++ more) = walk (walk place names) more :=
  List.foldl_append

theorem spine_append (place : Place) (names more : List String) :
    spine place (names ++ more) = spine place names ++ spine (walk place names) more := by
  induction names generalizing place with
  | nil => rfl
  | cons name rest ih => simp [spine, ih, walk]

/-- Dots do not lead away. -/
theorem walk_of_dots {place : Place} {names : List String} (h : ∀ name ∈ names, name = ".") :
    walk place names = place := by
  induction names with
  | nil => rfl
  | cons name rest ih =>
    rw [h name List.mem_cons_self, walk, List.foldl_cons, descend_dot]
    exact ih fun other ho => h other (List.mem_cons_of_mem _ ho)

theorem eq_of_mem_spine_of_dots {place above : Place} {names : List String}
    (h : ∀ name ∈ names, name = ".") (ha : above ∈ spine place names) : above = place := by
  induction names with
  | nil => simp [spine] at ha
  | cons name rest ih =>
    rw [h name List.mem_cons_self, spine, descend_dot] at ha
    rcases List.mem_cons.mp ha with rfl | ha
    · rfl
    · exact ih (fun other ho => h other (List.mem_cons_of_mem _ ho)) ha

end Place

namespace Tree

variable {tree other : Tree} {place target : Place} {names : List String}

/-- Following a name; a dot and two dots are never too long. -/
theorem follow_cons (tree : Tree) (place : Place) (name : String) (rest : List String) :
    tree.follow place (name :: rest) =
      match tree.node? place with
      | none => .error .notFound
      | some (.file _) => .error .notADirectory
      | some .directory =>
        if longestName < name.utf8ByteSize then .error .nameTooLong
        else tree.follow (place.descend name) rest := by
  rw [follow]
  cases tree.node? place with
  | none => rfl
  | some node =>
    cases node with
    | file content => rfl
    | directory =>
      by_cases hdot : name = "."
      · have hshort : ¬ longestName < ".".utf8ByteSize := by decide
        subst hdot
        simp only [↓reduceIte, hshort, Place.descend_dot]
      · by_cases hup : name = ".."
        · have hshort : ¬ longestName < "..".utf8ByteSize := by decide
          have hdescend : place.descend ".." = place.tail := by simp [Place.descend]
          subst hup
          simp only [hdot, ↓reduceIte, hshort, hdescend]
        · have hdescend : place.descend name = name :: place := by
            simp [Place.descend, hdot, hup]
          simp only [hdot, hup, ↓reduceIte, hdescend]

/-- Names lead to a place if the places before each of them are directories and none is too long. -/
theorem follow_eq_ok : tree.follow place names = .ok target ↔
    (∀ above ∈ place.spine names, tree.node? above = some .directory) ∧
      (∀ name ∈ names, name.utf8ByteSize ≤ longestName) ∧ target = place.walk names := by
  induction names generalizing place with
  | nil => simp [follow, Place.spine, Place.walk, eq_comm]
  | cons name rest ih =>
    have hwalk : place.walk (name :: rest) = (place.descend name).walk rest := rfl
    simp only [follow_cons, Place.spine, List.forall_mem_cons, hwalk]
    cases hnode : tree.node? place with
    | none => simp
    | some node =>
      cases node with
      | file content => simp
      | directory =>
        by_cases hshort : name.utf8ByteSize ≤ longestName
        · simp only [if_neg (Nat.not_lt.mpr hshort), ih, hshort, true_and]
        · simp [Nat.lt_of_not_le hshort, hshort]

/-- Where no file stands in the way, names lead nowhere only if a place is not there. -/
theorem eq_notFound_of_follow {error : FileError}
    (hclear : ∀ above ∈ place.spine names, ∀ content, tree.node? above ≠ some (.file content))
    (hnames : ∀ name ∈ names, name.utf8ByteSize ≤ longestName)
    (h : tree.follow place names = .error error) : error = .notFound := by
  induction names generalizing place with
  | nil => cases h
  | cons name rest ih =>
    rw [Place.spine, List.forall_mem_cons] at hclear
    rw [List.forall_mem_cons] at hnames
    rw [follow_cons] at h
    cases hnode : tree.node? place with
    | none =>
      rw [hnode] at h
      cases h
      rfl
    | some node =>
      cases node with
      | file content => exact absurd hnode (hclear.1 content)
      | directory =>
        simp only [hnode, if_neg (Nat.not_lt.mpr hnames.1)] at h
        exact ih hclear.2 hnames.2 h

/-- The places that are looked at when names are followed, with the one that they lead to. -/
def trail (tree : Tree) : Place → List String → List Place
  | place, [] => [place]
  | place, name :: rest =>
    if tree.node? place = some .directory ∧ name.utf8ByteSize ≤ longestName then
      place :: tree.trail (place.descend name) rest
    else [place]

theorem mem_trail_self (tree : Tree) (place : Place) (names : List String) :
    place ∈ tree.trail place names := by
  cases names with
  | nil => exact List.mem_singleton_self place
  | cons name rest =>
    rw [trail]
    split <;> exact List.mem_cons_self

/-- The place that names lead to is the last of the trail. -/
theorem mem_trail_of_follow (h : tree.follow place names = .ok target) :
    target ∈ tree.trail place names := by
  obtain ⟨hspine, hnames, rfl⟩ := follow_eq_ok.mp h
  clear h
  induction names generalizing place with
  | nil => exact mem_trail_self tree place []
  | cons name rest ih =>
    rw [Place.spine, List.forall_mem_cons] at hspine
    rw [List.forall_mem_cons] at hnames
    rw [trail, if_pos ⟨hspine.1, hnames.1⟩]
    exact List.mem_cons_of_mem _ (ih hspine.2 hnames.2)

/-- Where names lead depends on the trail alone. -/
theorem follow_congr (h : ∀ above ∈ tree.trail place names, other.node? above = tree.node? above) :
    other.follow place names = tree.follow place names := by
  induction names generalizing place with
  | nil => rfl
  | cons name rest ih =>
    have hhere := h place (mem_trail_self tree place _)
    rw [follow_cons, follow_cons, hhere]
    cases hnode : tree.node? place with
    | none => rfl
    | some node =>
      cases node with
      | file content => rfl
      | directory =>
        by_cases hshort : name.utf8ByteSize ≤ longestName
        · rw [trail, if_pos ⟨hnode, hshort⟩] at h
          have hrest := ih fun above ha => h above (List.mem_cons_of_mem _ ha)
          simp only [if_neg (Nat.not_lt.mpr hshort), hrest]
        · simp only [if_pos (Nat.lt_of_not_le hshort)]

end Tree

/-! ## Following paths -/

namespace Disk

variable {disk other : Disk} {path : Path} {place : Place}

/-- Where a path starts. -/
def start (disk : Disk) (path : Path) : Place :=
  if path.isAbsolute then [] else disk.home

/-- The place that a path leads to, if it leads anywhere. -/
def target (disk : Disk) (path : Path) : Place :=
  (disk.start path).walk path.names

/-- The places that have to be directories on the way of a path. -/
def spine (disk : Disk) (path : Path) : List Place :=
  (disk.start path).spine path.names

/-- The way of a path is open: the path is sound, and the places on the way are directories. -/
structure Open (disk : Disk) (path : Path) : Prop where
  sound : path.Sound
  spine : ∀ above ∈ disk.spine path, disk.tree.node? above = some .directory

/-- A path leads somewhere if its way is open. -/
theorem locate_eq_ok : disk.locate path = .ok place ↔
    disk.Open path ∧ place = disk.target path := by
  unfold locate
  constructor
  · intro h
    split at h
    · cases h
    · next hnul =>
      split at h
      · cases h
      · next hempty =>
        split at h
        · cases h
        · next hshort =>
          obtain ⟨hspine, hnames, hplace⟩ := Tree.follow_eq_ok.mp h
          rw [Bool.not_eq_true] at hnul hempty
          exact ⟨⟨⟨hnul, hempty, Nat.le_of_not_lt hshort, hnames⟩, hspine⟩, hplace⟩
  · rintro ⟨⟨⟨hnul, hempty, hshort, hnames⟩, hspine⟩, hplace⟩
    rw [hnul, hempty, if_neg (by simp), if_neg (by simp), if_neg (Nat.not_lt.mpr hshort)]
    exact Tree.follow_eq_ok.mpr ⟨hspine, hnames, hplace⟩

/-- What is done where a path leads is done if its way is open. -/
theorem bind_locate_eq_ok {α : Type} {next : Place → Except FileError α} {result : α} :
    (disk.locate path).bind next = .ok result ↔
      disk.Open path ∧ next (disk.target path) = .ok result := by
  constructor
  · intro h
    cases hplace : disk.locate path with
    | error error =>
      rw [hplace] at h
      cases h
    | ok place =>
      obtain ⟨hopen, rfl⟩ := locate_eq_ok.mp hplace
      rw [hplace] at h
      exact ⟨hopen, h⟩
  · rintro ⟨hopen, h⟩
    rw [locate_eq_ok.mpr ⟨hopen, rfl⟩]
    exact h

/-- What stands where a path leads is found if its way is open; a file is not found if the path ends
in a slash. -/
theorem node_eq_ok {node : Node} : disk.node path = .ok node ↔
    disk.Open path ∧ disk.tree.node? (disk.target path) = some node ∧
      (path.endsInSlash = true → node = .directory) := by
  unfold Disk.node
  rw [bind_locate_eq_ok]
  refine and_congr_right fun _ => ?_
  cases hnode : disk.tree.node? (disk.target path) with
  | none => simp
  | some found =>
    simp only [Option.some.injEq]
    cases found with
    | directory =>
      constructor
      · rintro ⟨⟩
        exact ⟨rfl, fun _ => rfl⟩
      · rintro ⟨rfl, -⟩
        rfl
    | file content =>
      cases path.endsInSlash with
      | true =>
        refine ⟨nofun, ?_⟩
        rintro ⟨rfl, hdirectory⟩
        cases hdirectory rfl
      | false => simp

/-- Where no file stands in the way, a sound path leads nowhere only if a place is not there. -/
theorem eq_notFound_of_locate {error : FileError} (hsound : path.Sound)
    (hclear : ∀ above ∈ disk.spine path, ∀ content, disk.tree.node? above ≠ some (.file content))
    (h : disk.locate path = .error error) : error = .notFound := by
  unfold locate at h
  rw [hsound.noNul, hsound.nonempty, if_neg (by simp), if_neg (by simp),
    if_neg (Nat.not_lt.mpr hsound.short)] at h
  exact Tree.eq_notFound_of_follow hclear hsound.shortNames h

/-- The places that are looked at when a path is followed, with the one that it leads to. -/
def trail (disk : Disk) (path : Path) : List Place :=
  disk.tree.trail (disk.start path) path.names

/-- Two disks are the same at some places, and relative paths start at the same place on them. -/
structure AgreeOn (places : List Place) (disk other : Disk) : Prop where
  home : other.home = disk.home
  nodes : ∀ place ∈ places, other.tree.node? place = disk.tree.node? place

theorem locate_congr (h : AgreeOn (disk.trail path) disk other) :
    other.locate path = disk.locate path := by
  have hfollow : other.tree.follow (disk.start path) path.names =
      disk.tree.follow (disk.start path) path.names := Tree.follow_congr h.nodes
  unfold start at hfollow
  rw [locate, locate, h.home, hfollow]

theorem mem_trail_of_locate (h : disk.locate path = .ok place) : place ∈ disk.trail path := by
  obtain ⟨hopen, hplace⟩ := locate_eq_ok.mp h
  exact Tree.mem_trail_of_follow
    (Tree.follow_eq_ok.mpr ⟨hopen.spine, hopen.sound.shortNames, hplace⟩)

theorem node_congr (h : AgreeOn (disk.trail path) disk other) :
    other.node path = disk.node path := by
  unfold node
  rw [locate_congr h]
  cases hplace : disk.locate path with
  | error error => rfl
  | ok place => simp only [Except.bind, h.nodes place (mem_trail_of_locate hplace)]

/-- What is read depends on the trail alone. -/
theorem read_congr (h : AgreeOn (disk.trail path) disk other) :
    other.read path = disk.read path := by
  unfold read
  rw [node_congr h]

end Disk

end Files

end SchemaBundle
