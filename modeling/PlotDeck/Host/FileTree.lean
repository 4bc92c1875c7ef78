import PlotDeck.Host.Basic

/-!
# File trees

A **file tree** holds the files and directories of a machine, by their names from the root, and
knows the directory in which a run takes place, its **home**. A path is walked name by name, from
the root or from the home, so `a/../b` leads to `b` only if `a` is a directory.
-/

namespace PlotDeck

/-- The names on a path in order; a dot stays. -/
def Path.names (p : Path) : List String :=
  ((splitSlashes p.text.toList).filter (· ≠ [])).map String.ofList

/-- Whether a path ends in a slash and so can only lead to a directory. -/
def Path.endsInSlash (p : Path) : Bool := p.text.toList.getLast? == some '/'

/-- What a name can stand for. -/
inductive FileItem where
  /-- A directory. -/
  | directory
  /-- A file with its bytes; a program can be executed. -/
  | file (content : ByteArray) (executable : Bool)

/-- Whether a name stands for a file. -/
def FileItem.isFile : FileItem → Bool
  | file .. => true
  | directory => false

namespace FileTree

/-! ### Items by their names -/

/-- The items with something else under some names. -/
def putItem (names : List String) (item : FileItem) :
    List (List String × FileItem) → List (List String × FileItem)
  | [] => [(names, item)]
  | (other, old) :: rest =>
    if other = names then (names, item) :: rest else (other, old) :: putItem names item rest

theorem mem_keys_putItem {names other : List String} {item : FileItem}
    {items : List (List String × FileItem)} :
    other ∈ (putItem names item items).map Prod.fst ↔
      other = names ∨ other ∈ items.map Prod.fst := by
  induction items with
  | nil => simp [putItem]
  | cons a rest ih =>
    obtain ⟨key, old⟩ := a
    rw [putItem]
    split
    · subst key
      simp
    · simp only [List.map_cons, List.mem_cons, ih]
      exact or_left_comm

theorem nodup_keys_putItem {names : List String} {item : FileItem}
    {items : List (List String × FileItem)} (h : (items.map Prod.fst).Nodup) :
    ((putItem names item items).map Prod.fst).Nodup := by
  induction items with
  | nil => simp [putItem]
  | cons a rest ih =>
    obtain ⟨key, old⟩ := a
    rw [List.map_cons, List.nodup_cons] at h
    rw [putItem]
    split
    · subst key
      exact List.nodup_cons.2 h
    · rename_i hne
      refine List.nodup_cons.2 ⟨fun hmem => ?_, ih h.2⟩
      rcases mem_keys_putItem.1 hmem with heq | hmem
      · exact hne heq
      · exact h.1 hmem

theorem lookup_cons_ite {key other : List String} {item : FileItem}
    {items : List (List String × FileItem)} :
    ((key, item) :: items).lookup other
      = if other = key then some item else items.lookup other := by
  by_cases h : other = key
  · subst other
    simp
  · rw [List.lookup_cons, beq_false_of_ne h, if_neg h]

theorem lookup_putItem {names other : List String} {item : FileItem}
    {items : List (List String × FileItem)} :
    (putItem names item items).lookup other =
      if other = names then some item else items.lookup other := by
  induction items with
  | nil => exact lookup_cons_ite
  | cons a rest ih =>
    obtain ⟨key, old⟩ := a
    rw [putItem]
    split
    · subst key
      rw [lookup_cons_ite, lookup_cons_ite]
      split <;> rfl
    · rename_i hne
      rw [lookup_cons_ite, lookup_cons_ite, ih]
      split
      · subst other
        rw [if_neg hne]
      · rfl

theorem lookup_filter_ne {names other : List String} {items : List (List String × FileItem)} :
    (items.filter (·.1 ≠ names)).lookup other
      = if other = names then none else items.lookup other := by
  induction items with
  | nil => simp
  | cons a rest ih =>
    obtain ⟨key, old⟩ := a
    by_cases hkey : key = names
    · subst key
      rw [List.filter_cons_of_neg (by simp), ih, lookup_cons_ite]
      split <;> rfl
    · rw [List.filter_cons_of_pos (by simpa using hkey), lookup_cons_ite, lookup_cons_ite, ih]
      split
      · subst other
        rw [if_neg hkey]
      · rfl

end FileTree

/-- The files and directories of a machine. Names are given from the innermost one to the root. -/
structure FileTree where
  /-- The names of the directory in which a run takes place. -/
  home : List String
  /-- What there is below the root, by its names. -/
  items : List (List String × FileItem)
  /-- Nothing is there twice. -/
  distinct : (items.map Prod.fst).Nodup
  /-- The home is a directory, and so is everything above it. -/
  settled : ∀ names, names <:+ home → names ≠ [] → items.lookup names = some .directory

namespace FileTree

/-- What is above a home below the root, or the home itself. -/
theorem eq_singleton_of_isSuffix {name : String} {names : List String} (h : names <:+ [name])
    (hne : names ≠ []) : names = [name] :=
  (List.suffix_cons_iff.1 h).resolve_right fun hnil => hne (List.suffix_nil.1 hnil)

/-- There is nothing but the home. -/
instance : Inhabited FileTree where
  default := {
    home := ["work"]
    items := [(["work"], .directory)]
    distinct := List.nodup_cons.2 ⟨List.not_mem_nil, List.nodup_nil⟩
    settled := fun names h hne => by rw [eq_singleton_of_isSuffix h hne]; rfl }

/-! ### Names and places -/

/-- What is in the tree under some names; none names the root. -/
def get? (t : FileTree) : List String → Option FileItem
  | [] => some .directory
  | names => t.items.lookup names

/-- Goes from a directory to a name in it. A dot stays there, and two dots go up from it; the root
is above itself. -/
def step (t : FileTree) (here : List String) (name : String) : Except OsError (List String) :=
  match t.get? here with
  | none => .error .notFound
  | some (.file ..) => .error .notDirectory
  | some .directory =>
    if name.utf8ByteSize > 255 then .error .nameTooLong
    else .ok (if name = "." then here else if name = ".." then here.tail else name :: here)

/-- Where a path starts. -/
def start (t : FileTree) (p : Path) : List String := if p.isAbsolute then [] else t.home

/-- The names that a path leads to. Everything before the last one has to be there. -/
def locate (t : FileTree) (p : Path) : Except OsError (List String) :=
  if p.text.toList.contains '\x00' then .error .nullInName
  else if p.text = "" then .error .notFound
  else if p.text.utf8ByteSize ≥ 4096 then .error .nameTooLong
  else p.names.foldlM t.step (t.start p)

/-- What a path leads to. -/
def find (t : FileTree) (p : Path) : Except OsError FileItem := do
  match t.get? (← t.locate p) with
  | none => .error .notFound
  | some .directory => .ok .directory
  | some item => if p.endsInSlash then .error .notDirectory else .ok item

/-! ### Changes -/

/-- The tree with something else under some names. The directories down to the home stay. -/
def put (t : FileTree) (names : List String) (item : FileItem) : FileTree :=
  if h : names <:+ t.home then t
  else {
    home := t.home
    items := putItem names item t.items
    distinct := nodup_keys_putItem t.distinct
    settled := fun other hother hne => by
      have hother' : other ≠ names := fun heq => h (heq ▸ hother)
      rw [lookup_putItem, if_neg hother', t.settled other hother hne] }

/-- The tree with nothing under some names. The directories down to the home stay. -/
def erase (t : FileTree) (names : List String) : FileTree :=
  if h : names <:+ t.home then t
  else {
    home := t.home
    items := t.items.filter (·.1 ≠ names)
    distinct := t.distinct.sublist (List.filter_sublist.map _)
    settled := fun other hother hne => by
      have hother' : other ≠ names := fun heq => h (heq ▸ hother)
      rw [lookup_filter_ne, if_neg hother', t.settled other hother hne] }

/-- The home and the directories above it are there. -/
theorem get?_of_isSuffix {t : FileTree} {names : List String} (h : names <:+ t.home) :
    t.get? names = some .directory := by
  cases names with
  | nil => rfl
  | cons name above => exact t.settled _ h (List.cons_ne_nil _ _)

theorem home_put (t : FileTree) (names : List String) (item : FileItem) :
    (t.put names item).home = t.home := by
  rw [put]
  split <;> rfl

theorem home_erase (t : FileTree) (names : List String) : (t.erase names).home = t.home := by
  rw [erase]
  split <;> rfl

theorem get?_put {t : FileTree} {names other : List String} {item : FileItem}
    (h : ¬names <:+ t.home) :
    (t.put names item).get? other = if other = names then some item else t.get? other := by
  rw [put, dif_neg h]
  cases other with
  | nil =>
    have hroot : [] ≠ names := fun heq => h (heq ▸ List.nil_suffix)
    rw [if_neg hroot, get?, get?]
  | cons a above => exact lookup_putItem

theorem get?_erase {t : FileTree} {names other : List String} (h : ¬names <:+ t.home) :
    (t.erase names).get? other = if other = names then none else t.get? other := by
  rw [erase, dif_neg h]
  cases other with
  | nil =>
    have hroot : [] ≠ names := fun heq => h (heq ▸ List.nil_suffix)
    rw [if_neg hroot, get?, get?]
  | cons a above => exact lookup_filter_ne

/-! ### Operations by path -/

/-- The bytes of a file. -/
def readBytes (t : FileTree) (p : Path) : Except OsError ByteArray := do
  match ← t.find p with
  | .file content _ => .ok content
  | .directory => .error .isDirectory

/-- The text of a file. -/
def readText (t : FileTree) (p : Path) : Except OsError String := do
  match String.fromUTF8? (← t.readBytes p) with
  | some text => .ok text
  | none => .error .notText

/-- Gives a file a new content. A file that was not there is made, in a directory that is. -/
def write (t : FileTree) (p : Path) (content : ByteArray) : Except OsError FileTree := do
  let here ← t.locate p
  if p.endsInSlash then .error .isDirectory
  else match t.get? here with
    | some .directory => .error .isDirectory
    | some (.file _ executable) => .ok (t.put here (.file content executable))
    | none => .ok (t.put here (.file content false))

/-- Makes a directory in one that is there. -/
def makeDirectory (t : FileTree) (p : Path) : Except OsError FileTree := do
  let here ← t.locate p
  match t.get? here with
  | some _ => .error .alreadyExists
  | none => .ok (t.put here .directory)

/-- The entries of the directory with some names. -/
def entriesOf (t : FileTree) (names : List String) : List DirectoryEntry :=
  t.items.filterMap fun
    | (name :: above, item) => if above = names then some ⟨name, item.isFile⟩ else none
    | _ => none

/-- What is in a directory. -/
def entries (t : FileTree) (p : Path) : Except OsError (List DirectoryEntry) := do
  match ← t.find p with
  | .file .. => .error .notDirectory
  | .directory => return t.entriesOf (← t.locate p)

/-- Removes a file. -/
def remove (t : FileTree) (p : Path) : Except OsError FileTree := do
  match ← t.find p with
  | .file .. => return t.erase (← t.locate p)
  | .directory => .error .isDirectory

/-- Whether a path leads to a file. -/
def isFile (t : FileTree) (p : Path) : Bool :=
  match t.find p with
  | .ok item => item.isFile
  | .error _ => false

/-- Whether a path leads to a directory. -/
def isDirectory (t : FileTree) (p : Path) : Bool := t.find p matches .ok .directory

/-! ### The tree below the home -/

/-- The path of what has these names. -/
def pathOf (names : List String) : Path := ⟨String.intercalate "/" names.reverse⟩

/-- Everything below the home, by its path from there. -/
def toList (t : FileTree) : List (Path × FileItem) :=
  (t.items.filter fun (names, _) => t.home.isSuffixOf names && names != t.home).map
    fun (names, item) => (pathOf (names.take (names.length - t.home.length)), item)

/-- Puts directories at the names, where there is nothing yet, and at everything above them. -/
def putDirectories (t : FileTree) : List String → FileTree
  | [] => t
  | name :: above =>
    let t := t.putDirectories above
    if (t.get? (name :: above)).isSome then t else t.put (name :: above) .directory

/-- The names that a path has, whether or not anything is there. -/
def namesOf (t : FileTree) (p : Path) : List String :=
  p.names.foldl (fun names name =>
    if name = "." then names else if name = ".." then names.tail else name :: names) (t.start p)

/-- The tree with a directory at a path and with all directories above it. -/
def plantDirectory (t : FileTree) (p : Path) : FileTree := t.putDirectories (t.namesOf p)

/-- The tree with a file at a path and with all directories above it. A program stays one. -/
def plantFile (t : FileTree) (p : Path) (content : ByteArray) (executable : Bool) : FileTree :=
  let names := t.namesOf p
  let wasExecutable := t.get? names matches some (.file _ true)
  (t.putDirectories names.tail).put names (.file content (executable || wasExecutable))

end FileTree

end PlotDeck
