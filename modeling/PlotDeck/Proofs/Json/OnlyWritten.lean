import PlotDeck.Proofs.Json.Written

/-!
# Only written values are parsed

Where a tree has an end, the text up to it is that of a written value (`exists_written`): whatever
the parser passes over, read or not, is of the grammar. The proof is an induction on the fuel, with
one statement for each function of the parser (`TakesWritten`).
-/

namespace PlotDeck.Json

variable {n : Nat} {t r : List Char}

/-! ### Space around values -/

/-- Space in front of other space. -/
def Gap.append (g h : Gap) : Gap :=
  ⟨g.text ++ h.text, fun c hc => (List.mem_append.1 hc).elim (g.isSpace c) (h.isSpace c)⟩

/-- A value with more space around it. -/
def Written.pad (g h : Gap) : Written → Written
  | .scalar before value after => .scalar (g.append before) value (after.append h)
  | .list before ws inner after => .list (g.append before) ws inner (after.append h)
  | .record before ms inner after => .record (g.append before) ms inner (after.append h)

theorem Written.text_pad (g h : Gap) (w : Written) :
    (w.pad g h).text = g.text ++ (w.text ++ h.text) := by
  match w with
  | .scalar .. => simp [pad, text, Gap.append]
  | .list _ [] .. => simp [pad, text, Gap.append]
  | .list _ (_ :: _) .. => simp [pad, text, Gap.append]
  | .record _ [] .. => simp [pad, text, Gap.append]
  | .record _ (_ :: _) .. => simp [pad, text, Gap.append]

/-- What is skipped is space. -/
theorem exists_gap (h : skipSpace t = r) : ∃ g : Gap, t = g.text ++ r :=
  ⟨⟨t.takeWhile isSpace, fun _ hc => List.mem_takeWhile_imp hc⟩,
    h ▸ List.takeWhile_append_dropWhile.symm⟩

/-! ### Values without parts -/

theorem eq_append_of_readWord {w : List Char} (h : readWord w t = .ok r) : t = w ++ r := by
  fun_induction readWord w t with
  | case1 => exact Except.ok.inj h
  | case2 => cases h
  | case3 c w t ih => rw [ih h, List.cons_append]
  | case4 => cases h

theorem ending_wordNode {value : Found} {letters : List Char}
    (h : (wordNode value letters t).ending = .ok r) : t = letters ++ r := by
  rw [wordNode] at h
  split at h
  · next hread =>
    obtain rfl := Except.ok.inj h
    exact eq_append_of_readWord hread
  · cases h

theorem ending_scalarNode {read : Except Fault (Found × List Char)}
    {pass : Except Fault (List Char)}
    (h : (scalarNode read pass).ending = .ok r) : pass = .ok r := by
  rcases read with f | p <;> rcases pass with g | after <;> cases h <;> rfl

/-- A value without parts, with no space around it. -/
def Scalar.written (s : Scalar) : Written := .scalar .empty s .empty

theorem Scalar.text_written (s : Scalar) : s.written.text = s.text := by
  simp [written, Written.text, Gap.empty]

theorem exists_of_numberNode (negative : Bool) (h : (numberNode negative t).ending = .ok r) :
    ∃ w : Written, (if negative then '-' :: t else t) = w.text ++ r := by
  obtain ⟨n, hneg, ht⟩ := exists_of_passNumber negative (ending_scalarNode h)
  refine ⟨(Scalar.number n).written, ?_⟩
  rw [Scalar.text_written, Scalar.text, Number.text, hneg, ht]
  cases negative <;> rfl

theorem exists_of_stringNode (h : (stringNode t).ending = .ok r) :
    ∃ w : Written, '"' :: t = w.text ++ r := by
  obtain ⟨ls, ht⟩ := exists_of_passString (ending_scalarNode h)
  refine ⟨(Scalar.string ls).written, ?_⟩
  rw [Scalar.text_written, Scalar.text, ht]
  simp

/-! ### Values with parts -/

/-- The text up to `r` is that of items and the end of their list. -/
def IsItems (t r : List Char) : Prop :=
  ∃ (w : Written) (ws : List Written) (inner : Gap), t = w.text ++ itemsEnd ws inner r

/-- The text up to `r` is that of members, from behind the first quote, and the end of their
record. -/
def IsMembers (t r : List Char) : Prop :=
  ∃ (ls : List Letter) (after : Gap) (w : Written) (ms : List (Label × Written)) (inner : Gap),
    t = lettersText ls ++ '"' :: (after.text ++ ':' :: (w.text ++ membersEnd ms inner r))

/-- Where the functions of the parser come to an end, they have taken what is written. -/
structure TakesWritten (n : Nat) : Prop where
  /-- A value. -/
  value : ∀ {t r}, (parseValue n t).ending = .ok r → ∃ w : Written, t = w.text ++ r
  /-- An item and the items after it. -/
  item : ∀ {t r}, (parseItem n t).2 = .ok r → IsItems t r
  /-- The items of a list, from the first one on. -/
  firstItems : ∀ {t r}, (parseItems n true t).2 = .ok r →
    (∃ inner : Gap, t = inner.text ++ ']' :: r) ∨ IsItems t r
  /-- The items of a list, from behind one. -/
  furtherItems : ∀ {t r}, (parseItems n false t).2 = .ok r →
    ∃ (g : Gap) (ws : List Written) (inner : Gap), t = g.text ++ itemsEnd ws inner r
  /-- A member from behind its opening quote, and the members after it. -/
  member : ∀ {t r}, (parseMember n t).2 = .ok r → IsMembers t r
  /-- The members of a record, from the first one on. -/
  firstMembers : ∀ {t r}, (parseMembers n true t).2 = .ok r →
    (∃ inner : Gap, t = inner.text ++ '\x7d' :: r) ∨
      ∃ (g : Gap) (t' : List Char), t = g.text ++ '"' :: t' ∧ IsMembers t' r
  /-- The members of a record, from behind one. -/
  furtherMembers : ∀ {t r}, (parseMembers n false t).2 = .ok r →
    ∃ (g : Gap) (ms : List (Label × Written)) (inner : Gap), t = g.text ++ membersEnd ms inner r

theorem takesWritten_zero : TakesWritten 0 where
  value h := nomatch h
  item h := nomatch h
  firstItems h := nomatch h
  furtherItems h := nomatch h
  member h := nomatch h
  firstMembers h := nomatch h
  furtherMembers h := nomatch h

/-- Space in front of items belongs to the first of them. -/
theorem IsItems.gap {t : List Char} (g : Gap) (h : IsItems t r) : IsItems (g.text ++ t) r := by
  obtain ⟨w, ws, inner, rfl⟩ := h
  exact ⟨w.pad g .empty, ws, inner, by simp [Written.text_pad, Gap.empty]⟩

/-- Members from behind the first quote are those of a record. -/
theorem IsMembers.exists_label {t : List Char} (g : Gap) (h : IsMembers t r) :
    ∃ (label : Label) (w : Written) (ms : List (Label × Written)) (inner : Gap),
      g.text ++ '"' :: t = label.text ++ (w.text ++ membersEnd ms inner r) := by
  obtain ⟨ls, after, w, ms, inner, rfl⟩ := h
  exact ⟨⟨g, ls, after⟩, w, ms, inner, by simp [Label.text]⟩

namespace TakesWritten

variable (h : TakesWritten n)
include h

theorem value_succ (hend : (parseValue (n + 1) t).ending = .ok r) :
    ∃ w : Written, t = w.text ++ r := by
  -- space in front of a value belongs to it
  suffices hskip : ∃ w : Written, skipSpace t = w.text ++ r by
    obtain ⟨w, hw⟩ := hskip
    obtain ⟨g, hg⟩ := exists_gap hw
    exact ⟨w.pad g .empty, by rw [hg, Written.text_pad]; simp [Gap.empty]⟩
  rw [parseValue] at hend
  split at hend
  · cases hend
  · next c t' hskip =>
    rw [hskip]
    -- the first character tells the kind of the value
    split at hend
    · refine ⟨Scalar.null.written, ?_⟩
      rw [ending_wordNode hend, Scalar.text_written]
      rfl
    · refine ⟨(Scalar.flag true).written, ?_⟩
      rw [ending_wordNode hend, Scalar.text_written]
      rfl
    · refine ⟨(Scalar.flag false).written, ?_⟩
      rw [ending_wordNode hend, Scalar.text_written]
      rfl
    · exact exists_of_stringNode hend
    · exact exists_of_numberNode true hend
    · obtain ⟨inner, ht⟩ | ⟨w, ws, inner, ht⟩ := h.firstItems hend
      · exact ⟨.list .empty [] inner .empty, by simp [Written.text, Gap.empty, ht]⟩
      · exact ⟨.list .empty (w :: ws) inner .empty,
          by simp [Written.text, Gap.empty, ht, itemsEnd]⟩
    · obtain ⟨inner, ht⟩ | ⟨g, t', ht, hmembers⟩ := h.firstMembers hend
      · exact ⟨.record .empty [] inner .empty, by simp [Written.text, Gap.empty, ht]⟩
      · obtain ⟨label, w, ms, inner, hlabel⟩ := hmembers.exists_label g
        exact ⟨.record .empty ((label, w) :: ms) inner .empty,
          by simp [Written.text, Gap.empty, ht, hlabel, membersEnd]⟩
    · split at hend
      · exact exists_of_numberNode false hend
      · cases hend

theorem item_succ (hend : (parseItem (n + 1) t).2 = .ok r) : IsItems t r := by
  rw [parseItem] at hend
  cases hitem : (parseValue n t).ending with
  | error failure => simp [hitem] at hend
  | ok after =>
    rw [hitem] at hend
    obtain ⟨w, ht⟩ := h.value hitem
    obtain ⟨g, ws, inner, hafter⟩ := h.furtherItems hend
    exact ⟨w.pad .empty g, ws, inner, by simp [ht, hafter, Written.text_pad, Gap.empty]⟩

theorem firstItems_succ (hend : (parseItems (n + 1) true t).2 = .ok r) :
    (∃ inner : Gap, t = inner.text ++ ']' :: r) ∨ IsItems t r := by
  rw [parseItems] at hend
  split at hend
  · cases hend
  · next c t' hskip =>
    obtain ⟨g, hg⟩ := exists_gap hskip
    split at hend
    · next hc =>
      obtain rfl := Except.ok.inj hend
      exact .inl ⟨g, hc ▸ hg⟩
    · rw [hg]
      exact .inr ((h.item hend).gap g)

theorem furtherItems_succ (hend : (parseItems (n + 1) false t).2 = .ok r) :
    ∃ (g : Gap) (ws : List Written) (inner : Gap), t = g.text ++ itemsEnd ws inner r := by
  rw [parseItems] at hend
  split at hend
  · cases hend
  · next c t' hskip =>
    obtain ⟨g, hg⟩ := exists_gap hskip
    split at hend
    · next hc =>
      obtain rfl := Except.ok.inj hend
      exact ⟨.empty, [], g, by simp [Gap.empty, itemsEnd, itemsText, hg, hc]⟩
    · next hc =>
      split at hend
      · next hfirst => cases hfirst
      · split at hend
        · next hcomma =>
          split at hend
          · cases hend
          · next d r' hskip' =>
            split at hend
            · cases hend
            · obtain ⟨g', hg'⟩ := exists_gap hskip'
              obtain ⟨w, ws, inner, hitem⟩ := (h.item hend).gap g'
              refine ⟨g, w :: ws, inner, ?_⟩
              rw [hg, hcomma, hg', hitem]
              simp [itemsEnd, itemsText]
        · cases hend

theorem member_succ (hend : (parseMember (n + 1) t).2 = .ok r) : IsMembers t r := by
  rw [parseMember] at hend
  cases hpass : passString t with
  | error g => simp [hpass] at hend
  | ok afterName =>
    obtain ⟨ls, hls⟩ := exists_of_passString hpass
    rw [hpass] at hend
    dsimp only at hend
    split at hend
    · cases hend
    · next rest hvalue =>
      split at hvalue
      · cases hvalue
      · next c t' hskip =>
        split at hvalue
        · next hc =>
          obtain ⟨after, hafter⟩ := exists_gap hskip
          obtain ⟨w, hw⟩ := h.value hvalue
          obtain ⟨g, ms, inner, hrest⟩ := h.furtherMembers hend
          refine ⟨ls, after, w.pad .empty g, ms, inner, ?_⟩
          rw [hls, hafter, hc, hw, hrest]
          simp [Written.text_pad, Gap.empty]
        · cases hvalue

theorem firstMembers_succ (hend : (parseMembers (n + 1) true t).2 = .ok r) :
    (∃ inner : Gap, t = inner.text ++ '\x7d' :: r) ∨
      ∃ (g : Gap) (t' : List Char), t = g.text ++ '"' :: t' ∧ IsMembers t' r := by
  rw [parseMembers] at hend
  split at hend
  · cases hend
  · next c t' hskip =>
    obtain ⟨g, hg⟩ := exists_gap hskip
    split at hend
    · next hc =>
      obtain rfl := Except.ok.inj hend
      exact .inl ⟨g, hc ▸ hg⟩
    · rw [if_pos rfl] at hend
      split at hend
      · next hquote => exact .inr ⟨g, t', hquote ▸ hg, h.member hend⟩
      · cases hend

theorem furtherMembers_succ (hend : (parseMembers (n + 1) false t).2 = .ok r) :
    ∃ (g : Gap) (ms : List (Label × Written)) (inner : Gap),
      t = g.text ++ membersEnd ms inner r := by
  rw [parseMembers] at hend
  split at hend
  · cases hend
  · next c t' hskip =>
    obtain ⟨g, hg⟩ := exists_gap hskip
    split at hend
    · next hc =>
      obtain rfl := Except.ok.inj hend
      exact ⟨.empty, [], g, by simp [Gap.empty, membersEnd, membersText, hg, hc]⟩
    · split at hend
      · next hfirst => cases hfirst
      · split at hend
        · next hcomma =>
          split at hend
          · cases hend
          · next d r' hskip' =>
            split at hend
            · next hquote =>
              obtain ⟨g', hg'⟩ := exists_gap hskip'
              obtain ⟨label, w, ms, inner, hlabel⟩ := (h.member hend).exists_label g'
              refine ⟨g, (label, w) :: ms, inner, ?_⟩
              rw [hg, hcomma, hg', hquote, hlabel]
              simp [membersEnd, membersText]
            · split at hend <;> cases hend
        · cases hend

theorem succ : TakesWritten (n + 1) where
  value := h.value_succ
  item := h.item_succ
  firstItems := h.firstItems_succ
  furtherItems := h.furtherItems_succ
  member := h.member_succ
  firstMembers := h.firstMembers_succ
  furtherMembers := h.furtherMembers_succ

end TakesWritten

theorem takesWritten (n : Nat) : TakesWritten n := by
  induction n with
  | zero => exact takesWritten_zero
  | succ n ih => exact ih.succ

/-- **Only written values are parsed**: a text that has a tree with an end, and nothing but space
behind that, is the text of a written value. -/
theorem exists_written (hend : (parse t).ending = .ok r) (hspace : skipSpace r = []) :
    ∃ w : Written, w.text = t := by
  obtain ⟨w, hw⟩ := (takesWritten _).value hend
  obtain ⟨g, hg⟩ := exists_gap hspace
  exact ⟨w.pad .empty g, by rw [Written.text_pad, hw, hg]; simp [Gap.empty]⟩

end PlotDeck.Json
