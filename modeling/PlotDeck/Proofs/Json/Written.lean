import PlotDeck.Json.Deck
import PlotDeck.Proofs.Json.String
import PlotDeck.Proofs.Json.Numeral

/-!
# Written values are parsed

A tree **presents** a written value when it is a tree of that value's parts, and each part without
parts is read as what it is found to be. Written values are parsed into trees that present them,
wherever they stand (`presents_parseValue`), provided that what follows ends a number.
-/

namespace PlotDeck.Json

/-! ### What trees present -/

mutual
/-- The tree is one of the value, and this is what is left after it. -/
inductive Presents : Node → Written → List Char → Prop
  /-- A value without parts. -/
  | scalar {value : Except Fault Found} {s : Scalar} (before after : Gap) (rest : List Char) :
    value.toOption = s.found? → Presents (.scalar value rest) (.scalar before s after) rest
  /-- A list. -/
  | list {items : Items} {ws : List Written} (start : List Char) (before inner after : Gap)
    (rest : List Char) :
    PresentsItems items ws →
    Presents (.list start items (.ok rest)) (.list before ws inner after) rest
  /-- A record. -/
  | record {members : Members} {ms : List (Label × Written)} (start : List Char)
    (before inner after : Gap) (rest : List Char) :
    PresentsMembers members ms →
      Presents (.record start members (.ok rest)) (.record before ms inner after) rest

/-- The items are trees of the values, and the list can be ended after the last of them only. -/
inductive PresentsItems : Items → List Written → Prop
  /-- No items. -/
  | nil : PresentsItems .nil []
  /-- An item and the items after it. -/
  | cons {item : Node} {items : Items} {w : Written} {ws : List Written} {rest : List Char} :
    Presents item w rest → (leaveList rest).toOption = (if ws.isEmpty then some () else none) →
      PresentsItems items ws → PresentsItems (.cons item items) (w :: ws)

/-- The members are trees of the values, under the names that the labels spell. -/
inductive PresentsMembers : Members → List (Label × Written) → Prop
  /-- No members. -/
  | nil : PresentsMembers .nil []
  /-- A member and the members after it. -/
  | cons {name : Except Fault String} {node : Node} {members : Members} {label : Label}
    {w : Written}
    {ms : List (Label × Written)} {rest : List Char} (afterName : List Char) :
    name.toOption = label.name? → Presents node w rest → PresentsMembers members ms →
      PresentsMembers (.cons name afterName node members) ((label, w) :: ms)
end

variable {n : Nat} {t r rest : List Char} {node : Node} {w : Written} {ws : List Written}
  {ms : List (Label × Written)} {inner : Gap}

theorem Presents.ending (h : Presents node w rest) : node.ending = .ok rest := by
  cases h <;> rfl

/-! ### Space -/

theorem skipSpace_cons_of_not {c : Char} (hc : isSpace c = false) :
    skipSpace (c :: t) = c :: t := by
  rw [skipSpace, List.dropWhile_cons, hc]
  rfl

theorem skipSpace_gap (g : Gap) (t : List Char) : skipSpace (g.text ++ t) = skipSpace t :=
  List.dropWhile_append_of_pos g.isSpace

theorem skipSpace_skipSpace (t : List Char) : skipSpace (skipSpace t) = skipSpace t := by
  induction t with
  | nil => rfl
  | cons c t ih =>
    cases hc : isSpace c with
    | true =>
      have hskip : skipSpace (c :: t) = skipSpace t := List.dropWhile_cons_of_pos hc
      rwa [hskip]
    | false => rw [skipSpace_cons_of_not hc, skipSpace_cons_of_not hc]

theorem Stops.gap (hrest : Stops rest) (g : Gap) : Stops (g.text ++ rest) := by
  cases htext : g.text with
  | nil => exact hrest
  | cons c t =>
    intro d hd
    obtain rfl : c = d := Option.some.inj hd
    exact .inl (g.isSpace c (by simp [htext]))

/-- The text from behind an item to behind its list. -/
def itemsEnd (ws : List Written) (inner : Gap) (rest : List Char) : List Char :=
  itemsText ws ++ (inner.text ++ ']' :: rest)

/-- The text from behind a member to behind its record. -/
def membersEnd (ms : List (Label × Written)) (inner : Gap) (rest : List Char) : List Char :=
  membersText ms ++ (inner.text ++ '\x7d' :: rest)

theorem stops_itemsEnd (ws : List Written) (inner : Gap) (rest : List Char) :
    Stops (itemsEnd ws inner rest) := by
  cases ws with
  | cons w ws => simp [Stops, itemsEnd, itemsText]
  | nil => exact Stops.gap (by simp [Stops]) inner

theorem stops_membersEnd (ms : List (Label × Written)) (inner : Gap) (rest : List Char) :
    Stops (membersEnd ms inner rest) := by
  cases ms with
  | cons m ms => simp [Stops, membersEnd, membersText]
  | nil => exact Stops.gap (by simp [Stops]) inner

/-- The space behind a value. -/
def Written.after : Written → Gap
  | .scalar _ _ after | .list _ _ _ after | .record _ _ _ after => after

/-! ### Steps of the parser -/

section Steps

variable {items : Items} {members : Members} {ending : Except Failure (List Char)} {r' : List Char}
  {c : Char}

/-- Space before a value is skipped. -/
theorem parseValue_of_skipSpace (h : skipSpace t = skipSpace r) :
    parseValue (n + 1) t = parseValue (n + 1) r := by
  rw [parseValue, parseValue, h]

theorem parseItems_of_skipSpace {first : Bool} (h : skipSpace t = skipSpace r) :
    parseItems (n + 1) first t = parseItems (n + 1) first r := by
  rw [parseItems, parseItems, h]

theorem parseMembers_of_skipSpace {first : Bool} (h : skipSpace t = skipSpace r) :
    parseMembers (n + 1) first t = parseMembers (n + 1) first r := by
  rw [parseMembers, parseMembers, h]

theorem parseValue_list (h : parseItems n true t = (items, ending)) :
    parseValue (n + 1) ('[' :: t) = .list ('[' :: t) items ending := by
  rw [parseValue, skipSpace_cons_of_not (by decide)]
  simp only [h]

theorem parseValue_record (h : parseMembers n true t = (members, ending)) :
    parseValue (n + 1) ('\x7b' :: t) = .record ('\x7b' :: t) members ending := by
  rw [parseValue, skipSpace_cons_of_not (by decide)]
  simp only [h]

theorem parseItems_close {first : Bool} (h : skipSpace t = ']' :: r) :
    parseItems (n + 1) first t = (.nil, .ok r) := by
  rw [parseItems, h]
  rfl

theorem parseItems_first (h : skipSpace t = c :: r) (hc : c ≠ ']') :
    parseItems (n + 1) true t = parseItem n (c :: r) := by
  rw [parseItems, h]
  simp [hc]

theorem parseItems_comma (h : skipSpace t = ',' :: r) (hr : skipSpace r = c :: r') (hc : c ≠ ']') :
    parseItems (n + 1) false t = parseItem n (c :: r') := by
  rw [parseItems, h]
  simp [hr, hc]

theorem parseItem_of_ending (h : (parseValue n t).ending = .ok r)
    (hrest : parseItems n false r = (items, ending)) :
    parseItem (n + 1) t = (.cons (parseValue n t) items, ending) := by
  rw [parseItem]
  simp only [h, hrest]

theorem parseMembers_close {first : Bool} (h : skipSpace t = '\x7d' :: r) :
    parseMembers (n + 1) first t = (.nil, .ok r) := by
  rw [parseMembers, h]
  rfl

theorem parseMembers_first (h : skipSpace t = '"' :: r) :
    parseMembers (n + 1) true t = parseMember n r := by
  rw [parseMembers, h]
  rfl

theorem parseMembers_comma (h : skipSpace t = ',' :: r) (hr : skipSpace r = '"' :: r') :
    parseMembers (n + 1) false t = parseMember n r' := by
  rw [parseMembers, h]
  simp [hr]

theorem parseMember_of_ending {afterName : List Char} (hpass : passString t = .ok afterName)
    (hcolon : skipSpace afterName = ':' :: r) (h : (parseValue n r).ending = .ok r')
    (hrest : parseMembers n false r' = (members, ending)) :
    parseMember (n + 1) t
      = (.cons ((readString t).map (·.1)) afterName (parseValue n r) members, ending) := by
  rw [parseMember, hpass]
  simp only [hcolon, if_true, h, hrest]

end Steps

/-! ### Values without parts -/

theorem isSpace_digit {c : Char} (hc : c.isDigit = true) : isSpace c = false := by
  refine Bool.eq_false_iff.2 fun hspace => ?_
  obtain rfl | rfl | rfl | rfl := eq_of_isSpace hspace <;> revert hc <;> decide

/-- A value without parts does not start with space or a closing bracket. -/
theorem Scalar.exists_eq_cons (s : Scalar) :
    ∃ c r, s.text = c :: r ∧ isSpace c = false ∧ c ≠ ']' := by
  match s with
  | .null => exact ⟨_, _, rfl, by decide⟩
  | .flag true => exact ⟨_, _, rfl, by decide⟩
  | .flag false => exact ⟨_, _, rfl, by decide⟩
  | .string ls => exact ⟨_, _, rfl, by decide⟩
  | .number n =>
    cases hneg : n.negative with
    | true => exact ⟨'-', n.unsigned, by rw [text, Number.text, hneg]; rfl, by decide⟩
    | false =>
      obtain ⟨c, r, htext, hc⟩ := n.whole.exists_eq_cons
      refine ⟨c, _, by rw [text, Number.text, hneg, Number.unsigned, htext]; rfl,
        isSpace_digit hc, ?_⟩
      rintro rfl
      exact absurd hc (by decide)

theorem parseValue_digit {c : Char} (hc : c.isDigit = true) :
    parseValue (n + 1) (c :: t) = numberNode false (c :: t) := by
  rw [parseValue, skipSpace_cons_of_not (isSpace_digit hc)]
  dsimp only
  split
  case h_8 => rw [if_pos hc]
  all_goals exact absurd hc (by decide)

/-- A value without parts is parsed as what it is found to be. -/
theorem exists_parseValue_scalar (hrest : Stops rest) (s : Scalar) :
    ∃ value, parseValue (n + 1) (s.text ++ rest) = .scalar value rest ∧
      value.toOption = s.found? := by
  match s with
  | .null => exact ⟨.ok .null, rfl, rfl⟩
  | .flag true => exact ⟨.ok (.flag true), rfl, rfl⟩
  | .flag false => exact ⟨.ok (.flag false), rfl, rfl⟩
  | .string ls =>
    obtain ⟨value, hnode, hvalue⟩ := exists_stringNode ls rest
    refine ⟨value, ?_, hvalue⟩
    have htext : (Scalar.string ls).text ++ rest = '"' :: (lettersText ls ++ '"' :: rest) := by
      simp [Scalar.text]
    rw [htext, parseValue, skipSpace_cons_of_not (by decide)]
    exact hnode
  | .number m =>
    obtain ⟨value, hnode, hvalue⟩ := m.exists_numberNode hrest
    refine ⟨value, ?_, hvalue⟩
    rw [Scalar.text, Number.text]
    cases hneg : m.negative with
    | true =>
      rw [if_pos rfl, List.cons_append, parseValue, skipSpace_cons_of_not (by decide)]
      rwa [hneg] at hnode
    | false =>
      rw [hneg] at hnode
      obtain ⟨c, r, htext, hc⟩ := m.whole.exists_eq_cons
      rw [if_neg (by decide), Number.unsigned, htext]
      rw [Number.unsigned, htext] at hnode
      exact (parseValue_digit hc).trans hnode

/-! ### Written values -/

/-- Where a value starts there is no bracket that ends a list. -/
theorem exists_skipSpace_text (w : Written) (t : List Char) :
    ∃ c r, skipSpace (w.text ++ t) = c :: r ∧ c ≠ ']' := by
  cases w with
  | scalar before s after =>
    obtain ⟨c, r, htext, hspace, hc⟩ := s.exists_eq_cons
    refine ⟨c, r ++ (after.text ++ t), ?_, hc⟩
    rw [Written.text, List.append_assoc, List.append_assoc, skipSpace_gap, htext]
    exact skipSpace_cons_of_not hspace
  | list before ws inner after =>
    refine ⟨'[', ?_⟩
    cases ws <;> rw [Written.text, List.append_assoc, skipSpace_gap] <;>
      exact ⟨_, skipSpace_cons_of_not (by decide), by decide⟩
  | record before ms inner after =>
    refine ⟨'\x7b', ?_⟩
    rcases ms with _ | ⟨⟨label, w⟩, ms⟩ <;> rw [Written.text, List.append_assoc, skipSpace_gap] <;>
      exact ⟨_, skipSpace_cons_of_not (by decide), by decide⟩

/-- A list can be ended behind its last item only. -/
theorem toOption_leaveList (g : Gap) (ws : List Written) (inner : Gap) (rest : List Char) :
    (leaveList (g.text ++ itemsEnd ws inner rest)).toOption
      = if ws.isEmpty then some () else none := by
  rw [leaveList, skipSpace_gap, itemsEnd]
  cases ws with
  | nil =>
    rw [itemsText, List.nil_append, skipSpace_gap, skipSpace_cons_of_not (by decide)]
    rfl
  | cons w ws =>
    rw [itemsText, List.cons_append, skipSpace_cons_of_not (by decide)]
    simp only [if_neg (show ',' ≠ ']' by decide), if_true]
    split <;> rfl

theorem Written.length_text_pos (w : Written) : 0 < w.text.length := by
  obtain ⟨c, r, hskip, -⟩ := exists_skipSpace_text w []
  rw [List.append_nil] at hskip
  refine List.length_pos_iff.2 fun hnil => ?_
  rw [hnil] at hskip
  cases hskip

/-- From behind the opening quote of a label: its name is read, and its value follows. -/
theorem exists_parseMember_label {members : Members} (label : Label) (t : List Char)
    (h : (parseValue n t).ending = .ok r) (hrest : parseMembers n false r = (members, .ok rest)) :
    ∃ name afterName, name.toOption = label.name? ∧
      parseMember (n + 1) (lettersText label.letters ++ '"' :: (label.after.text ++ ':' :: t))
        = (.cons name afterName (parseValue n t) members, .ok rest) := by
  let inside := lettersText label.letters ++ '"' :: (label.after.text ++ ':' :: t)
  have hname : ((readString inside).map (·.1)).toOption = label.name? := by
    rw [toOption_map, readString, toOption_map, toOption_readChars, Label.name?, spelled]
    cases decode label.letters <;> rfl
  have hcolon : skipSpace (label.after.text ++ ':' :: t) = ':' :: t := by
    rw [skipSpace_gap, skipSpace_cons_of_not (by decide)]
  exact ⟨_, _, hname, parseMember_of_ending (passString_letters _ _) hcolon h hrest⟩

section Parts

variable {c : Char}

/-- An item and the items after it are parsed, if it is and they are. -/
theorem exists_parseItem_written
    (hskip : skipSpace (w.text ++ itemsEnd ws inner rest) = c :: r)
    (hfuel : 3 * (w.text ++ itemsEnd ws inner rest).length + 1 < n)
    (hitem : ∀ k, 3 * (w.text ++ itemsEnd ws inner rest).length < k →
      Presents (parseValue k (w.text ++ itemsEnd ws inner rest)) w
        (w.after.text ++ itemsEnd ws inner rest))
    (hrest : ∀ k, 3 * (itemsEnd ws inner rest).length + 2 < k →
      ∃ items, parseItems k false (itemsEnd ws inner rest) = (items, .ok rest) ∧
        PresentsItems items ws) :
    ∃ items, parseItem n (c :: r) = (items, .ok rest) ∧ PresentsItems items (w :: ws) := by
  have hlt : (itemsEnd ws inner rest).length < (w.text ++ itemsEnd ws inner rest).length := by
    have hpos := w.length_text_pos
    rw [List.length_append]
    omega
  -- the item and what follows it are each parsed with the fuel of one step less
  obtain ⟨k, rfl⟩ : ∃ k, n = k + 2 := ⟨n - 2, by omega⟩
  have hpresents := hitem (k + 1) (by omega)
  obtain ⟨items, hitems, hpresentsItems⟩ := hrest (k + 1) (by omega)
  have hvalue : parseValue (k + 1) (w.text ++ itemsEnd ws inner rest)
      = parseValue (k + 1) (c :: r) :=
    parseValue_of_skipSpace (by rw [← hskip, skipSpace_skipSpace])
  rw [← parseItems_of_skipSpace (skipSpace_gap w.after _)] at hitems
  rw [hvalue] at hpresents
  exact ⟨_, parseItem_of_ending hpresents.ending hitems,
    .cons hpresents (toOption_leaveList w.after ws inner rest) hpresentsItems⟩

/-- A member and the members after it are parsed, if its value is and they are. -/
theorem exists_parseMember_written (label : Label) (rest : List Char)
    (hfuel : 3 * (w.text ++ membersEnd ms inner rest).length + 1 < n)
    (hvalue : ∀ k, 3 * (w.text ++ membersEnd ms inner rest).length < k →
      Presents (parseValue k (w.text ++ membersEnd ms inner rest)) w
        (w.after.text ++ membersEnd ms inner rest))
    (hrest : ∀ k, 3 * (membersEnd ms inner rest).length + 2 < k →
      ∃ members, parseMembers k false (membersEnd ms inner rest) = (members, .ok rest) ∧
        PresentsMembers members ms) :
    ∃ members, parseMember n (lettersText label.letters ++ '"' :: (label.after.text ++
        ':' :: (w.text ++ membersEnd ms inner rest))) = (members, .ok rest) ∧
      PresentsMembers members ((label, w) :: ms) := by
  have hlt : (membersEnd ms inner rest).length < (w.text ++ membersEnd ms inner rest).length := by
    have hpos := w.length_text_pos
    rw [List.length_append]
    omega
  obtain ⟨k, rfl⟩ : ∃ k, n = k + 2 := ⟨n - 2, by omega⟩
  have hpresents := hvalue (k + 1) (by omega)
  obtain ⟨members, hmembers, hpresentsMembers⟩ := hrest (k + 1) (by omega)
  rw [← parseMembers_of_skipSpace (skipSpace_gap w.after _)] at hmembers
  obtain ⟨name, afterName, hname, hparse⟩ :=
    exists_parseMember_label label _ hpresents.ending hmembers
  exact ⟨_, hparse, .cons afterName hname hpresents hpresentsMembers⟩

end Parts

theorem skipSpace_label (label : Label) (t : List Char) :
    skipSpace (label.text ++ t)
      = '"' :: (lettersText label.letters ++ '"' :: (label.after.text ++ ':' :: t)) := by
  rw [Label.text, List.append_assoc, skipSpace_gap, List.cons_append,
    skipSpace_cons_of_not (by decide)]
  simp

mutual
/-- **A written value is parsed** into a tree that presents it, provided that there is fuel. -/
theorem presents_parseValue (w : Written) (n : Nat) (rest : List Char) (hrest : Stops rest)
    (hfuel : 3 * (w.text ++ rest).length < n) :
    Presents (parseValue n (w.text ++ rest)) w (w.after.text ++ rest) := by
  obtain ⟨n, rfl⟩ : ∃ k, n = k + 1 := ⟨n - 1, by omega⟩
  match w with
  | .scalar before s after =>
    obtain ⟨value, hparse, hvalue⟩ := exists_parseValue_scalar (n := n) (hrest.gap after) s
    rw [Written.text, List.append_assoc, List.append_assoc,
      parseValue_of_skipSpace (skipSpace_gap before _), hparse]
    exact .scalar _ _ _ hvalue
  | .list before [] inner after =>
    have htext : (Written.list before [] inner after).text ++ rest
        = before.text ++ '[' :: (inner.text ++ ']' :: (after.text ++ rest)) := by
      simp [Written.text]
    rw [htext] at hfuel ⊢
    simp only [List.length_append, List.length_cons] at hfuel
    obtain ⟨n, rfl⟩ : ∃ k, n = k + 1 := ⟨n - 1, by omega⟩
    have hclose : skipSpace (inner.text ++ ']' :: (after.text ++ rest))
        = ']' :: (after.text ++ rest) := by
      rw [skipSpace_gap, skipSpace_cons_of_not (by decide)]
    rw [parseValue_of_skipSpace (skipSpace_gap before _), parseValue_list (parseItems_close hclose)]
    exact .list _ before inner after _ .nil
  | .list before (w :: ws) inner after =>
    have htext : (Written.list before (w :: ws) inner after).text ++ rest
        = before.text ++ '[' :: (w.text ++ itemsEnd ws inner (after.text ++ rest)) := by
      simp [Written.text, itemsEnd]
    rw [htext] at hfuel ⊢
    rw [List.length_append, List.length_cons] at hfuel
    obtain ⟨n, rfl⟩ : ∃ k, n = k + 1 := ⟨n - 1, by omega⟩
    obtain ⟨c, r, hskip, hc⟩ := exists_skipSpace_text w (itemsEnd ws inner (after.text ++ rest))
    obtain ⟨items, hitems, hpresents⟩ := exists_parseItem_written (n := n) hskip (by omega)
      (fun k => presents_parseValue w k _ (stops_itemsEnd ws inner _))
      (fun k => exists_parseItems_written ws inner k _)
    rw [parseValue_of_skipSpace (skipSpace_gap before _),
      parseValue_list ((parseItems_first hskip hc).trans hitems)]
    exact .list _ before inner after _ hpresents
  | .record before [] inner after =>
    have htext : (Written.record before [] inner after).text ++ rest
        = before.text ++ '\x7b' :: (inner.text ++ '\x7d' :: (after.text ++ rest)) := by
      simp [Written.text]
    rw [htext] at hfuel ⊢
    simp only [List.length_append, List.length_cons] at hfuel
    obtain ⟨n, rfl⟩ : ∃ k, n = k + 1 := ⟨n - 1, by omega⟩
    have hclose : skipSpace (inner.text ++ '\x7d' :: (after.text ++ rest))
        = '\x7d' :: (after.text ++ rest) := by
      rw [skipSpace_gap, skipSpace_cons_of_not (by decide)]
    rw [parseValue_of_skipSpace (skipSpace_gap before _),
      parseValue_record (parseMembers_close hclose)]
    exact .record _ before inner after _ .nil
  | .record before ((label, w) :: ms) inner after =>
    have htext : (Written.record before ((label, w) :: ms) inner after).text ++ rest
        = before.text ++
          '\x7b' :: (label.text ++ (w.text ++ membersEnd ms inner (after.text ++ rest))) := by
      simp [Written.text, membersEnd]
    rw [htext] at hfuel ⊢
    simp only [List.length_append, List.length_cons] at hfuel
    obtain ⟨n, rfl⟩ : ∃ k, n = k + 1 := ⟨n - 1, by omega⟩
    obtain ⟨members, hmembers, hpresents⟩ := exists_parseMember_written (n := n) label
      (after.text ++ rest) (by rw [List.length_append]; omega)
      (fun k => presents_parseValue w k _ (stops_membersEnd ms inner _))
      (fun k => exists_parseMembers_written ms inner k _)
    rw [parseValue_of_skipSpace (skipSpace_gap before _),
      parseValue_record ((parseMembers_first (skipSpace_label label _)).trans hmembers)]
    exact .record _ before inner after _ hpresents

/-- The items after the first are parsed into trees that present them. -/
theorem exists_parseItems_written (ws : List Written) (inner : Gap) (n : Nat) (rest : List Char)
    (hfuel : 3 * (itemsEnd ws inner rest).length + 2 < n) :
    ∃ items, parseItems n false (itemsEnd ws inner rest) = (items, .ok rest) ∧
      PresentsItems items ws := by
  obtain ⟨n, rfl⟩ : ∃ k, n = k + 1 := ⟨n - 1, by omega⟩
  match ws with
  | [] =>
    refine ⟨.nil, parseItems_close ?_, .nil⟩
    rw [itemsEnd, itemsText, List.nil_append, skipSpace_gap, skipSpace_cons_of_not (by decide)]
  | w :: ws =>
    have htext : itemsEnd (w :: ws) inner rest = ',' :: (w.text ++ itemsEnd ws inner rest) := by
      simp [itemsEnd, itemsText]
    rw [htext] at hfuel ⊢
    rw [List.length_cons] at hfuel
    obtain ⟨c, r, hskip, hc⟩ := exists_skipSpace_text w (itemsEnd ws inner rest)
    rw [parseItems_comma (skipSpace_cons_of_not (by decide)) hskip hc]
    exact exists_parseItem_written hskip (by omega)
      (fun k => presents_parseValue w k _ (stops_itemsEnd ws inner _))
      (fun k => exists_parseItems_written ws inner k _)

/-- The members after the first are parsed into trees that present them. -/
theorem exists_parseMembers_written (ms : List (Label × Written)) (inner : Gap) (n : Nat)
    (rest : List Char) (hfuel : 3 * (membersEnd ms inner rest).length + 2 < n) :
    ∃ members, parseMembers n false (membersEnd ms inner rest) = (members, .ok rest) ∧
      PresentsMembers members ms := by
  obtain ⟨n, rfl⟩ : ∃ k, n = k + 1 := ⟨n - 1, by omega⟩
  match ms with
  | [] =>
    refine ⟨.nil, parseMembers_close ?_, .nil⟩
    rw [membersEnd, membersText, List.nil_append, skipSpace_gap, skipSpace_cons_of_not (by decide)]
  | (label, w) :: ms =>
    have htext : membersEnd ((label, w) :: ms) inner rest
        = ',' :: (label.text ++ (w.text ++ membersEnd ms inner rest)) := by
      simp [membersEnd, membersText]
    rw [htext] at hfuel ⊢
    simp only [List.length_cons, List.length_append] at hfuel
    rw [parseMembers_comma (skipSpace_cons_of_not (by decide)) (skipSpace_label label _)]
    exact exists_parseMember_written label rest (by rw [List.length_append]; omega)
      (fun k => presents_parseValue w k _ (stops_membersEnd ms inner _))
      (fun k => exists_parseMembers_written ms inner k _)
end

/-- The tree of a text presents the value that is written in it. -/
theorem presents_parse (w : Written) : Presents (parse w.text) w w.after.text := by
  have hpresents := presents_parseValue w (3 * w.text.length + 3) [] stops_nil
    (by rw [List.append_nil]; omega)
  rwa [List.append_nil, List.append_nil] at hpresents

end PlotDeck.Json
