import PlotDeck.Path
import PlotDeck.Proofs.Text.Boundary

/-!
# The last name of a path

Every path that has a file name is written as a **front**, which is empty or ends with a slash, the
name, and a **trail** of slashes and single dots that says nothing (`Path.EndsIn`,
`Path.exists_endsIn`). The functions on paths look at the name and the front alone. So a path with
another extension has the same front, the stem of the old name and the new extension
(`Path.EndsIn.withExtension`), with one exception: if the path ends in a name of two dots and an
extension, the two dots are left, and these go up a directory (`Path.EndsIn.withExtension_dots`).
-/

namespace PlotDeck.Path

open Text (byteSize takeBytes byteSize_eq_zero_iff takeBytes_append takeBytes_zero
  takeBytes_isPrefix)

variable {p : Path} {base front name stem trail s t : List Char}

/-! ### Parts between slashes -/

theorem splitSlashes_ne_nil (t : List Char) : splitSlashes t ≠ [] := by
  cases t with
  | nil => simp [splitSlashes]
  | cons c t =>
    rw [splitSlashes]
    split
    · simp
    · split <;> simp

theorem splitSlashes_cons_of_ne {c : Char} (hc : c ≠ '/') (t : List Char) :
    ∃ part parts, splitSlashes t = part :: parts ∧
      splitSlashes (c :: t) = (c :: part) :: parts := by
  cases ht : splitSlashes t with
  | nil => exact absurd ht (splitSlashes_ne_nil t)
  | cons part parts => exact ⟨part, parts, rfl, by rw [splitSlashes, if_neg hc, ht]⟩

theorem splitSlashes_append_slash (s t : List Char) :
    splitSlashes (s ++ '/' :: t) = splitSlashes s ++ splitSlashes t := by
  induction s with
  | nil => simp [splitSlashes]
  | cons c s ih =>
    by_cases hc : c = '/'
    · simp [splitSlashes, hc, ih]
    · obtain ⟨part, parts, hs, hcons⟩ := splitSlashes_cons_of_ne hc s
      obtain ⟨part', parts', hs', hcons'⟩ := splitSlashes_cons_of_ne hc (s ++ '/' :: t)
      rw [ih, hs, List.cons_append] at hs'
      obtain ⟨rfl, rfl⟩ := List.cons.inj hs'
      rw [List.cons_append, hcons', hcons, List.cons_append]

theorem splitSlashes_of_not_mem (h : '/' ∉ t) : splitSlashes t = [t] := by
  induction t with
  | nil => rfl
  | cons c t ih =>
    rw [List.mem_cons, not_or] at h
    rw [splitSlashes, if_neg (Ne.symm h.1), ih h.2]

theorem splitSlashes_append_of_not_mem {part : List Char} {parts : List (List Char)}
    (hs : '/' ∉ s) (h : splitSlashes t = part :: parts) :
    splitSlashes (s ++ t) = (s ++ part) :: parts := by
  induction s with
  | nil => exact h
  | cons c s ih =>
    rw [List.mem_cons, not_or] at hs
    rw [List.cons_append, splitSlashes, if_neg (Ne.symm hs.1), ih hs.2]
    rfl

theorem not_mem_of_mem_splitSlashes {part : List Char} (h : part ∈ splitSlashes t) :
    '/' ∉ part := by
  induction t generalizing part with
  | nil =>
    obtain rfl : part = [] := by simpa [splitSlashes] using h
    simp
  | cons c t ih =>
    by_cases hc : c = '/'
    · rw [splitSlashes, if_pos hc, List.mem_cons] at h
      rcases h with rfl | h
      · simp
      · exact ih h
    · obtain ⟨first, parts, ht, hcons⟩ := splitSlashes_cons_of_ne hc t
      rw [hcons, List.mem_cons] at h
      rcases h with rfl | h
      · exact List.not_mem_cons_of_ne_of_not_mem (Ne.symm hc) (ih (ht ▸ List.mem_cons_self))
      · exact ih (ht ▸ List.mem_cons_of_mem _ h)

theorem intercalate_splitSlashes (t : List Char) : List.intercalate ['/'] (splitSlashes t) = t := by
  induction t with
  | nil => rfl
  | cons c t ih =>
    by_cases hc : c = '/'
    · cases ht : splitSlashes t with
      | nil => exact absurd ht (splitSlashes_ne_nil t)
      | cons part parts =>
        rw [splitSlashes, if_pos hc, ht, List.intercalate_cons_cons, ← ht, ih, hc]
        rfl
    · obtain ⟨part, parts, ht, hcons⟩ := splitSlashes_cons_of_ne hc t
      rw [hcons]
      rw [ht] at ih
      cases parts with
      | nil => simpa using ih
      | cons next parts =>
        rw [List.intercalate_cons_cons] at ih ⊢
        rw [← ih]
        simp

theorem isIdle_iff {part : List Char} : isIdle part = true ↔ part = [] ∨ part = ['.'] := by
  rw [isIdle, Bool.or_eq_true, beq_iff_eq, beq_iff_eq]

theorem isIdle_eq_false_iff {part : List Char} :
    isIdle part = false ↔ part ≠ [] ∧ part ≠ ['.'] := by
  rw [isIdle, Bool.or_eq_false_iff, beq_eq_false_iff_ne, beq_eq_false_iff_ne]

/-! ### Fronts -/

/-- What can stand before the last name of a path: nothing, or text that ends with a slash. -/
def IsFront (front : List Char) : Prop := front = [] ∨ ∃ t, front = t ++ ['/']

/-- The parts of a front. -/
def frontParts (front : List Char) : List (List Char) := (splitSlashes front).dropLast

theorem IsFront.splitSlashes_append (h : IsFront front) (t : List Char) :
    splitSlashes (front ++ t) = frontParts front ++ splitSlashes t := by
  rcases h with rfl | ⟨u, rfl⟩
  · simp [frontParts, splitSlashes]
  · rw [frontParts, List.append_assoc, List.singleton_append, splitSlashes_append_slash,
      splitSlashes_append_slash]
    simp [splitSlashes]

/-- A suffix of a front is one. -/
theorem IsFront.of_append (h : IsFront (s ++ t)) : IsFront t := by
  rcases h with h | ⟨u, hu⟩
  · exact .inl (List.append_eq_nil_iff.1 h).2
  · rcases List.eq_nil_or_concat t with rfl | ⟨t', c, rfl⟩
    · exact .inl rfl
    · rw [List.concat_eq_append, ← List.append_assoc] at hu
      obtain ⟨-, hc⟩ := List.append_inj' hu rfl
      exact .inr ⟨t', by rw [List.concat_eq_append, hc]⟩

theorem lead_isPrefix (t : List Char) : lead t <+: t := by
  rw [lead.eq_def]
  split
  · exact List.prefix_append ['/'] _
  · exact List.prefix_refl _
  · exact List.prefix_append ['.'] _
  · exact List.nil_prefix

/-- The parts of a front, without what the path starts with. -/
def innerParts (base : List Char) : List (List Char) := frontParts (base.drop (lead base).length)

theorem IsFront.drop_lead (h : IsFront base) : IsFront (base.drop (lead base).length) := by
  rw [← List.take_append_drop (lead base).length base] at h
  exact h.of_append

/-- A front and a name are put together from the parts. -/
theorem IsFront.lead_append_intercalate (h : IsFront base) (hs : '/' ∉ s) :
    lead base ++ List.intercalate ['/'] (innerParts base ++ [s]) = base ++ s := by
  rw [innerParts, ← splitSlashes_of_not_mem hs, ← h.drop_lead.splitSlashes_append,
    intercalate_splitSlashes, ← List.append_assoc, List.prefix_iff_eq_append.1 (lead_isPrefix base)]

/-! ### Trails -/

/-- Text that says nothing at the end of a path. -/
inductive IsTrail : List Char → Prop
  /-- Nothing. -/
  | nil : IsTrail []
  /-- A slash. -/
  | slash {t : List Char} (h : IsTrail t) : IsTrail ('/' :: t)
  /-- A slash and a single dot. -/
  | dot {t : List Char} (h : IsTrail t) : IsTrail ('/' :: '.' :: t)

/-- The parts of a trail name nothing. -/
theorem IsTrail.splitSlashes_append (h : IsTrail trail) : ∀ {name : List Char}, '/' ∉ name →
    ∃ idle, splitSlashes (name ++ trail) = name :: idle ∧ ∀ part ∈ idle, isIdle part = true := by
  induction h with
  | nil => exact fun hname => ⟨[], by rw [List.append_nil, splitSlashes_of_not_mem hname], by simp⟩
  | slash _ ih =>
    intro name hname
    obtain ⟨idle, hsplit, hidle⟩ := @ih [] (by simp)
    refine ⟨[] :: idle, ?_, List.forall_mem_cons.2 ⟨rfl, hidle⟩⟩
    rw [splitSlashes_append_slash, splitSlashes_of_not_mem hname]
    exact congrArg (name :: ·) hsplit
  | dot _ ih =>
    intro name hname
    obtain ⟨idle, hsplit, hidle⟩ := @ih ['.'] (by decide)
    refine ⟨['.'] :: idle, ?_, List.forall_mem_cons.2 ⟨rfl, hidle⟩⟩
    rw [splitSlashes_append_slash, splitSlashes_of_not_mem hname]
    exact congrArg (name :: ·) hsplit

/-- Parts that name nothing are a trail. -/
theorem isTrail_flatMap {idle : List (List Char)} (h : ∀ part ∈ idle, isIdle part = true) :
    IsTrail (idle.flatMap ('/' :: ·)) := by
  induction idle with
  | nil => exact .nil
  | cons part idle ih =>
    obtain ⟨hpart, hidle⟩ := List.forall_mem_cons.1 h
    rcases isIdle_iff.1 hpart with rfl | rfl
    · exact .slash (ih hidle)
    · exact .dot (ih hidle)

theorem IsTrail.of_isPrefix (h : IsTrail trail) (ht : t <+: trail) : IsTrail t := by
  induction h generalizing t with
  | nil => exact List.prefix_nil.1 ht ▸ .nil
  | slash _ ih =>
    rcases List.prefix_cons_iff.1 ht with rfl | ⟨u, rfl, hu⟩
    · exact .nil
    · exact .slash (ih hu)
  | dot _ ih =>
    rcases List.prefix_cons_iff.1 ht with rfl | ⟨u, rfl, hu⟩
    · exact .nil
    · rcases List.prefix_cons_iff.1 hu with rfl | ⟨v, rfl, hv⟩
      · exact .slash .nil
      · exact .dot (ih hv)

/-- A trail ends with a slash, or with a slash and a dot. -/
theorem IsTrail.eq_nil_or_concat (h : IsTrail trail) :
    trail = [] ∨ (∃ t, trail = t ++ ['/']) ∨ ∃ t, trail = t ++ ['/', '.'] := by
  induction h with
  | nil => exact .inl rfl
  | slash _ ih =>
    rcases ih with rfl | ⟨t, rfl⟩ | ⟨t, rfl⟩
    · exact .inr (.inl ⟨[], rfl⟩)
    · exact .inr (.inl ⟨'/' :: t, rfl⟩)
    · exact .inr (.inr ⟨'/' :: t, rfl⟩)
  | dot _ ih =>
    rcases ih with rfl | ⟨t, rfl⟩ | ⟨t, rfl⟩
    · exact .inr (.inr ⟨[], rfl⟩)
    · exact .inr (.inl ⟨'/' :: '.' :: t, rfl⟩)
    · exact .inr (.inr ⟨'/' :: '.' :: t, rfl⟩)

/-! ### Extensions -/

/-- The last dot splits a name, unless it starts the name. -/
theorem splitExtension_append_dot {ext : List Char} (stem : List Char) (hext : '.' ∉ ext) :
    splitExtension (stem ++ '.' :: ext)
      = if stem = [] then ('.' :: ext, none) else (stem, some ext) := by
  have hpass : ∀ c ∈ ext.reverse, (c != '.') = true := fun c hc =>
    bne_iff_ne.2 fun heq => hext (heq ▸ List.mem_reverse.1 hc)
  have hreverse : (stem ++ '.' :: ext).reverse = ext.reverse ++ '.' :: stem.reverse := by simp
  have hdrop : (ext.reverse ++ '.' :: stem.reverse).dropWhile (· != '.') = '.' :: stem.reverse := by
    rw [List.dropWhile_append_of_pos hpass]
    rfl
  have htake : (ext.reverse ++ '.' :: stem.reverse).takeWhile (· != '.') = ext.reverse := by
    rw [List.takeWhile_append_of_pos hpass]
    simp
  rw [splitExtension, hreverse, hdrop, htake]
  by_cases hstem : stem = [] <;> simp [hstem]

theorem splitExtension_of_not_mem (h : '.' ∉ name) : splitExtension name = (name, none) := by
  have hpass : ∀ c ∈ name.reverse, (c != '.') = true := fun c hc =>
    bne_iff_ne.2 fun heq => h (heq ▸ List.mem_reverse.1 hc)
  have hdrop : name.reverse.dropWhile (· != '.') = [] := by
    rw [← List.append_nil name.reverse, List.dropWhile_append_of_pos hpass, List.dropWhile_nil]
  rw [splitExtension, hdrop]

theorem exists_eq_append_last_dot (h : '.' ∈ name) :
    ∃ stem ext, name = stem ++ '.' :: ext ∧ '.' ∉ ext := by
  obtain ⟨back, front, hreverse, hback⟩ := List.eq_append_cons_of_mem (List.mem_reverse.2 h)
  refine ⟨front.reverse, back.reverse, ?_, fun h => hback (List.mem_reverse.1 h)⟩
  rw [← List.reverse_reverse name, hreverse]
  simp

/-- A name has no extension, or it is the stem, a dot and the extension. -/
theorem splitExtension_cases (name : List Char) :
    splitExtension name = (name, none) ∨ ∃ stem ext, name = stem ++ '.' :: ext ∧ stem ≠ [] ∧
      '.' ∉ ext ∧ splitExtension name = (stem, some ext) := by
  by_cases hdot : '.' ∈ name
  · obtain ⟨stem, ext, rfl, hext⟩ := exists_eq_append_last_dot hdot
    rw [splitExtension_append_dot _ hext]
    by_cases hstem : stem = []
    · exact .inl (by simp [hstem])
    · exact .inr ⟨stem, ext, rfl, hstem, hext, if_neg hstem⟩
  · exact .inl (splitExtension_of_not_mem hdot)

theorem splitExtension_isPrefix (name : List Char) : (splitExtension name).1 <+: name := by
  rcases splitExtension_cases name with h | ⟨stem, ext, rfl, -, -, h⟩
  · simp [h]
  · simp [h]

/-! ### The last name -/

/-- The path is written as a front, its last name and a trail. -/
structure EndsIn (p : Path) (base name trail : List Char) : Prop where
  /-- The text of the path. -/
  text : p.text.toList = base ++ (name ++ trail)
  /-- What stands before the name. -/
  front : IsFront base
  /-- The name holds no slash. -/
  noSlash : '/' ∉ name
  /-- The name says something. -/
  named : isIdle name = false
  /-- What follows the name. -/
  trail : IsTrail trail

/-- What a path starts with is told by two characters. -/
theorem lead_cons_cons (a b : Char) (t : List Char) : lead (a :: b :: t)
    = if a = '/' then ['/'] else if a = '.' ∧ b = '/' then ['.'] else [] := by
  rw [lead.eq_def]
  split <;> simp_all

theorem lead_cons (c : Char) (t : List Char) : lead (c :: t)
    = if c = '/' then ['/'] else if c = '.' ∧ (t = [] ∨ t.head? = some '/') then ['.'] else [] := by
  cases t with
  | nil => rw [lead.eq_def]; split <;> simp_all
  | cons d t => rw [lead_cons_cons]; simp

/-- A path starts like its front. -/
theorem IsFront.lead_append (h : IsFront base) (hslash : '/' ∉ name)
    (hnamed : isIdle name = false) (t : List Char) : lead (base ++ (name ++ t)) = lead base := by
  rw [isIdle_eq_false_iff] at hnamed
  rcases h with rfl | ⟨u, rfl⟩
  · -- the path starts with its name
    match name, hnamed with
    | [c], hnamed =>
      have hslash : c ≠ '/' := by simpa [eq_comm] using hslash
      have hdot : c ≠ '.' := by simpa using hnamed.2
      cases t <;> simp [lead, hslash, hdot]
    | c :: d :: r, _ =>
      simp only [List.mem_cons, not_or] at hslash
      simp [Ne.symm hslash.1, Ne.symm hslash.2.1, lead]
  · match u with
    | [] => rfl
    | [c] => simp [lead_cons_cons]
    | c :: d :: u => simp [lead_cons_cons]

namespace EndsIn

variable {text : String} {ext : String}

theorem partsBack (h : p.EndsIn base name trail) :
    p.partsBack = name :: (innerParts base).reverse := by
  obtain ⟨idle, hsplit, hidle⟩ := h.trail.splitSlashes_append h.noSlash
  have hdrop : p.text.toList.drop (lead p.text.toList).length
      = base.drop (lead base).length ++ (name ++ trail) := by
    rw [h.text, h.front.lead_append h.noSlash h.named,
      List.drop_append_of_le_length (lead_isPrefix base).length_le]
  rw [Path.partsBack, hdrop, h.front.drop_lead.splitSlashes_append, hsplit, innerParts,
    List.reverse_append, List.reverse_cons, List.append_assoc,
    List.dropWhile_append_of_pos fun part hpart => hidle part (List.mem_reverse.1 hpart)]
  simp [h.named]

theorem fileName? (h : p.EndsIn base name trail) (hname : name ≠ ['.', '.']) :
    p.fileName? = some (String.ofList name) := by
  rw [Path.fileName?, h.partsBack]
  simp [hname]

/-- The directory of a path is told by its front. -/
theorem parent? (h : p.EndsIn base name trail) :
    p.parent? = some (ofPartsBack (lead base) (innerParts base).reverse) := by
  rw [Path.parent?, h.partsBack, h.text, h.front.lead_append h.noSlash h.named]

theorem fileStem? (h : p.EndsIn base name trail) (hname : name ≠ ['.', '.']) :
    p.fileStem? = some (String.ofList (splitExtension name).1) := by
  rw [Path.fileStem?, h.fileName? hname, Option.map_some, String.toList_ofList]

theorem extension? (h : p.EndsIn base name trail) (hname : name ≠ ['.', '.']) :
    p.extension? = (splitExtension name).2.map String.ofList := by
  rw [Path.extension?, h.fileName? hname, Option.bind_some, String.toList_ofList]

/-- An extension is set behind the stem of the last name. -/
theorem setExtension (h : p.EndsIn base name trail) (hname : name ≠ ['.', '.']) (hext : ext ≠ "") :
    (p.setExtension ext).text.toList = base ++ ((splitExtension name).1 ++ '.' :: ext.toList) := by
  have hstem : '/' ∉ (splitExtension name).1 := fun hmem =>
    h.noSlash ((splitExtension_isPrefix name).subset hmem)
  rw [Path.setExtension, h.partsBack]
  simp only [hname, hext, if_false, String.toList_ofList]
  rw [h.text, h.front.lead_append h.noSlash h.named, List.reverse_cons, List.reverse_reverse,
    h.front.lead_append_intercalate hstem, List.append_assoc]

/-- A path that goes up a directory takes no extension. -/
theorem setExtension_up (h : p.EndsIn base ['.', '.'] trail) : p.setExtension ext = p := by
  rw [Path.setExtension, h.partsBack]
  rfl

end EndsIn

/-- A path that starts with a dot of its own goes on with an empty part. -/
theorem exists_splitSlashes_of_lead (h : lead t = ['.']) :
    ∃ parts, splitSlashes (t.drop (lead t).length) = [] :: parts := by
  rw [h]
  rw [lead.eq_def] at h
  split at h
  · cases h
  · exact ⟨[], rfl⟩
  · exact ⟨_, if_pos rfl⟩
  · cases h

theorem lead_cases (t : List Char) : lead t = [] ∨ lead t = ['/'] ∨ lead t = ['.'] := by
  rw [lead.eq_def]
  split <;> simp

theorem intercalate_append_cons (before after : List (List Char)) (part : List Char) :
    List.intercalate ['/'] (before ++ part :: after)
      = before.flatMap (· ++ ['/']) ++ (part ++ after.flatMap ('/' :: ·)) := by
  induction before with
  | nil =>
    induction after generalizing part with
    | nil => simp
    | cons next after ih =>
      have hrest := ih next
      rw [List.nil_append] at hrest ⊢
      rw [List.intercalate_cons_cons, hrest]
      simp
  | cons first before ih =>
    cases hrest : before ++ part :: after with
    | nil => simp at hrest
    | cons next rest =>
      rw [hrest] at ih
      rw [List.cons_append, hrest, List.intercalate_cons_cons, ih]
      simp

/-- The text before the last name of a path is a front. -/
theorem isFront_lead_append {parts rest : List (List Char)} {part : List Char}
    (hparts : splitSlashes (t.drop (lead t).length) = parts ++ part :: rest)
    (hpart : isIdle part = false) : IsFront (lead t ++ parts.flatMap (· ++ ['/'])) := by
  rcases List.eq_nil_or_concat parts with rfl | ⟨init, last, rfl⟩
  · rw [List.flatMap_nil, List.append_nil]
    rcases lead_cases t with h | h | h
    · exact .inl h
    · exact .inr ⟨[], h⟩
    · -- a path that starts with a dot of its own has an empty part before its first name
      obtain ⟨parts, hsplit⟩ := exists_splitSlashes_of_lead h
      rw [hsplit] at hparts
      obtain rfl : [] = part := (List.cons.inj hparts).1
      cases hpart
  · refine .inr ⟨lead t ++ init.flatMap (· ++ ['/']) ++ last, ?_⟩
    simp

/-- What is left when the end of a list is dropped as far as it passes. -/
theorem eq_of_dropWhile_reverse {α : Type} {q : α → Bool} {l rest : List α} {a : α}
    (h : l.reverse.dropWhile q = a :: rest) :
    ∃ after, l = rest.reverse ++ a :: after ∧ q a = false ∧ ∀ b ∈ after, q b = true := by
  refine ⟨(l.reverse.takeWhile q).reverse, ?_, ?_, fun b hb => ?_⟩
  · have htake : l.reverse = l.reverse.takeWhile q ++ a :: rest := by
      rw [← h, List.takeWhile_append_dropWhile]
    simpa using congrArg List.reverse htake
  · have hhead := List.head?_dropWhile_not q l.reverse
    simpa [h] using hhead
  · exact List.all_eq_true.1 List.all_takeWhile b (List.mem_reverse.1 hb)

/-- Every path with a last part is written so. -/
theorem exists_endsIn_of_partsBack {part : List Char} {rest : List (List Char)}
    (h : p.partsBack = part :: rest) : ∃ base trail, p.EndsIn base part trail := by
  obtain ⟨idle, hsplit, hpart, hidle⟩ := eq_of_dropWhile_reverse h
  have hmem : part ∈ splitSlashes (p.text.toList.drop (lead p.text.toList).length) :=
    hsplit ▸ List.mem_append_right _ List.mem_cons_self
  refine ⟨lead p.text.toList ++ rest.reverse.flatMap (· ++ ['/']), idle.flatMap ('/' :: ·),
    ⟨?_, ?_, ?_, hpart, isTrail_flatMap hidle⟩⟩
  · rw [List.append_assoc, ← intercalate_append_cons, ← hsplit, intercalate_splitSlashes]
    exact (List.prefix_iff_eq_append.1 (lead_isPrefix _)).symm
  · exact isFront_lead_append hsplit hpart
  · exact not_mem_of_mem_splitSlashes hmem

/-- Every path with a file name is written so. -/
theorem exists_endsIn {last : String} (h : p.fileName? = some last) :
    ∃ base trail, p.EndsIn base last.toList trail ∧ last.toList ≠ ['.', '.'] := by
  rw [fileName?] at h
  split at h
  · next part rest hparts =>
    split at h
    · cases h
    · next hup =>
      obtain rfl := Option.some.inj h
      obtain ⟨base, trail, hends⟩ := exists_endsIn_of_partsBack hparts
      rw [String.toList_ofList]
      exact ⟨base, trail, hends, hup⟩
  · cases h

/-! ### Another extension -/

/-- Of a text with as many bytes dropped as come before its last part, something is left behind the
first part exactly if the last part is not empty. -/
theorem dropEndBytes_append (s e t : List Char) : ∃ left,
    dropEndBytes (s ++ (e ++ t)) (byteSize e) = s ++ left ∧ left <+: e ++ t ∧
    (left = [] ↔ t = []) := by
  have hsize : byteSize (s ++ (e ++ t)) - byteSize e = byteSize s + byteSize t := by
    simp only [Text.byteSize_append]
    omega
  rw [dropEndBytes, hsize, takeBytes_append]
  simp only [Text.byteSize_append, Nat.add_right_inj]
  split
  · next hkept =>
    refine ⟨_, rfl, takeBytes_isPrefix _ _, ?_⟩
    rw [← byteSize_eq_zero_iff, hkept, byteSize_eq_zero_iff]
  · next hkept =>
    have hne : t ≠ [] := by
      rintro rfl
      exact hkept (by rw [Text.byteSize_nil, takeBytes_zero]; rfl)
    refine ⟨(e ++ t).take ((takeBytes (e ++ t) (byteSize t)).length + 1), ?_,
      List.take_prefix _ _, ?_⟩
    · rw [List.length_append, Nat.add_assoc, List.take_length_add_append]
    · simp [hne]

theorem isIdle_append_dot {ext : List Char} (hstem : stem ≠ []) :
    isIdle (stem ++ '.' :: ext) = false := by
  obtain ⟨c, r, rfl⟩ := List.exists_cons_of_ne_nil hstem
  simp [isIdle]

/-- A stem, a dot and an extension go up a directory only if they are two dots. -/
theorem append_dot_eq_dots {ext : List Char} (hstem : stem ≠ [])
    (h : stem ++ '.' :: ext = ['.', '.']) : stem = ['.'] ∧ ext = [] := by
  match stem, hstem with
  | [c], _ => simpa using h
  | c :: d :: r, _ => simp at h

theorem splitExtension_append {ext : List Char} (hstem : stem ≠ []) (hext : '.' ∉ ext) :
    splitExtension (stem ++ '.' :: ext) = (stem, some ext) := by
  rw [splitExtension_append_dot stem hext, if_neg hstem]

/-- A name has a stem. -/
theorem splitExtension_ne_nil (hname : name ≠ []) : (splitExtension name).1 ≠ [] := by
  rcases splitExtension_cases name with h | ⟨stem, ext, -, hstem, -, h⟩
  · rwa [h]
  · rwa [h]

namespace EndsIn

variable {ext : String}

theorem name_ne_nil (h : p.EndsIn base name trail) : name ≠ [] := by
  rintro rfl
  cases h.named

/-- Of a path with an extension, as many bytes as the extension has are cut off the end. The stem is
left, unless the path ends in a name of two dots and an extension. -/
theorem setExtension_dropEndBytes {old : List Char}
    (h : p.EndsIn base (stem ++ '.' :: old) trail) (hstem : stem ≠ []) (hold : '.' ∉ old)
    (hup : stem ++ '.' :: old ≠ ['.', '.']) (hdots : ¬(stem = ['.'] ∧ trail = []))
    (hext : ext ≠ "") :
    (Path.setExtension ⟨String.ofList (dropEndBytes p.text.toList (byteSize old))⟩ ext).text.toList
      = base ++ (stem ++ '.' :: ext.toList) := by
  have htext : p.text.toList = (base ++ (stem ++ ['.'])) ++ (old ++ trail) := by
    rw [h.text]
    simp
  obtain ⟨left, hdrop, hleft, hempty⟩ := dropEndBytes_append (base ++ (stem ++ ['.'])) old trail
  rw [← htext] at hdrop
  rcases List.prefix_or_prefix_of_prefix hleft (List.prefix_append old trail) with hcut | ⟨t, rfl⟩
  · -- the cut is behind the last dot, and the trail is gone
    have hcutdot : '.' ∉ left := fun hmem => hold (hcut.subset hmem)
    have hends : EndsIn ⟨String.ofList (dropEndBytes p.text.toList (byteSize old))⟩ base
        (stem ++ '.' :: left) [] := by
      refine ⟨?_, h.front, fun hmem => h.noSlash ?_, isIdle_append_dot hstem, .nil⟩
      · rw [String.toList_ofList, hdrop]
        simp
      · rcases List.mem_append.1 hmem with hmem | hmem
        · exact List.mem_append_left _ hmem
        · exact List.mem_append_right _ ((List.cons_prefix_cons.2 ⟨rfl, hcut⟩).subset hmem)
    have hname : stem ++ '.' :: left ≠ ['.', '.'] := fun heq =>
      hdots ⟨(append_dot_eq_dots hstem heq).1, hempty.1 (append_dot_eq_dots hstem heq).2⟩
    rw [hends.setExtension hname hext, splitExtension_append hstem hcutdot]
  · -- a first part of the trail is left
    have ht : t <+: trail := by simpa using hleft
    have hends : EndsIn ⟨String.ofList (dropEndBytes p.text.toList (byteSize old))⟩ base
        (stem ++ '.' :: old) t := by
      refine ⟨?_, h.front, h.noSlash, h.named, h.trail.of_isPrefix ht⟩
      rw [String.toList_ofList, hdrop]
      simp
    rw [hends.setExtension hup hext, splitExtension_append hstem hold]

/-- The path with another extension ends in the stem and that extension. -/
theorem withExtension (h : p.EndsIn base name trail) (hup : name ≠ ['.', '.'])
    (hdots : ¬((splitExtension name).1 = ['.'] ∧ trail = [])) (hext : ext ≠ "")
    (hslash : '/' ∉ ext.toList) :
    (p.withExtension ext).EndsIn base ((splitExtension name).1 ++ '.' :: ext.toList) [] := by
  have hstem := splitExtension_ne_nil h.name_ne_nil
  refine ⟨?_, h.front, fun hmem => ?_, isIdle_append_dot hstem, .nil⟩
  · rw [List.append_nil, Path.withExtension, h.extension? hup]
    rcases splitExtension_cases name with hnone | ⟨stem, old, rfl, -, hold, hsplit⟩
    · have hset := h.setExtension hup hext
      rw [hnone] at hset ⊢
      exact hset
    · rw [hsplit] at hstem hdots ⊢
      simp only [Option.map_some, String.toList_ofList]
      exact h.setExtension_dropEndBytes hstem hold hup hdots hext
  · rcases List.mem_append.1 hmem with hmem | hmem
    · exact h.noSlash ((splitExtension_isPrefix name).subset hmem)
    · exact hslash (by simpa using hmem)

/-- Two dots are left of a path that ends in a name of two dots and an extension. -/
theorem withExtension_dots (h : p.EndsIn base name []) (hup : name ≠ ['.', '.'])
    (hdots : (splitExtension name).1 = ['.']) (ext : String) :
    (p.withExtension ext).EndsIn base ['.', '.'] [] := by
  rcases splitExtension_cases name with hnone | ⟨stem, old, rfl, -, hold, hsplit⟩
  · -- a dot alone is no name
    rw [hnone] at hdots
    have hnamed := h.named
    rw [show name = ['.'] from hdots] at hnamed
    cases hnamed
  · obtain rfl : stem = ['.'] := by rwa [hsplit] at hdots
    have htext : p.text.toList = (base ++ ['.', '.']) ++ (old ++ []) := by
      rw [h.text]
      simp
    obtain ⟨left, hdrop, -, hempty⟩ := dropEndBytes_append (base ++ ['.', '.']) old []
    rw [hempty.2 rfl, ← htext, List.append_nil] at hdrop
    have hends : EndsIn ⟨String.ofList (dropEndBytes p.text.toList (byteSize old))⟩ base
        ['.', '.'] [] :=
      ⟨by simp [hdrop], h.front, by decide, rfl, .nil⟩
    rw [Path.withExtension, h.extension? hup, hsplit]
    simp only [Option.map_some, String.toList_ofList]
    rwa [hends.setExtension_up]

end EndsIn

end PlotDeck.Path
