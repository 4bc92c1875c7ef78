import PlotDeck.Proofs.Template.FixedPoint
import PlotDeck.Proofs.Template.Staying

/-!
# Line breaks before the end of an environment

A line break right above the end of an environment goes where lines have been removed behind it, and
stays where they have been removed before it. To say so exactly, let `c` be the last line above the
end at `k` that **shows** something (`LastBeforeEnd`). A line break is the last line above the end
that stays exactly if line `c` is followed by removed lines, if any, and then by line breaks only
(`LastBeforeEnd.exists_lastBreak_iff`). In a slide without line feeds the kept lines are the lines
of the rendered text, so the same is true of what is read there (`Layout.breakAbove_end_iff`).

The proofs compare positions: the content that a kept line break follows can only be line `c`
(`removed_of_lastBreak`), and whatever was removed behind the line break would have taken it along
(`breaks_of_lastBreak`).
-/

namespace PlotDeck

open Template Text

namespace Template

/-! ### Kinds of lines -/

namespace Line

/-- Whether a line is a line break that is not removed. -/
def breaks (l : Line) : Bool := !l.isRemoved && l.isBreak

/-- Whether a line shows something: it stands and is not blank. -/
def shows (l : Line) : Bool := l.stands && !l.isBlank

/-- Whether a line stands and closes an environment. -/
def ends (l : Line) : Bool := l.stands && l.closes

variable {l : Line}

theorem breaks_iff : l.breaks = true ↔ l.isRemoved = false ∧ l.isBreak = true := by
  rw [breaks, Bool.and_eq_true, Bool.not_eq_true']

theorem isContent_eq : l.isContent = (l.shows && !l.opens) := by
  rw [isContent, shows, endsContent, Bool.not_or, Bool.and_assoc]

theorem stands_eq_false_of_breaks (h : l.breaks = true) : l.stands = false :=
  stands_eq_false_iff.2 (.inr (breaks_iff.1 h).2)

theorem stands_eq_false_of_isRemoved (h : l.isRemoved = true) : l.stands = false :=
  stands_eq_false_iff.2 (.inl h)

theorem stands_of_shows (h : l.shows = true) : l.stands = true := (Bool.and_eq_true_iff.1 h).1

theorem stands_of_ends (h : l.ends = true) : l.stands = true := (Bool.and_eq_true_iff.1 h).1

theorem shows_of_isContent (h : l.isContent = true) : l.shows = true := by
  rw [isContent_eq] at h
  exact (Bool.and_eq_true_iff.1 h).1

theorem isRemoved_eq_false_of_breaks (h : l.breaks = true) : l.isRemoved = false :=
  (breaks_iff.1 h).1

end Line

variable {ls : List Line} {b c i k : Nat}

section Any

variable {o : Option Line} {p q : Line → Bool}

theorem any_mono (hpq : ∀ l : Line, p l = true → q l = true) (h : o.any p = true) :
    o.any q = true := by
  cases o with
  | none => cases h
  | some l => exact hpq l h

/-- Kinds that exclude each other are not met at one position. -/
theorem not_any_both (hpq : ∀ l : Line, p l = true → q l = false) (hp : o.any p = true)
    (hq : o.any q = true) : False := by
  obtain ⟨l, rfl, hl⟩ := (Option.any_eq_true _ _).1 hp
  exact Bool.false_ne_true ((hpq l hl).symm.trans hq)

end Any

/-- A line that stands stays. -/
theorem staysAt_of_stands (h : ls[i]?.any Line.stands = true) : StaysAt ls i := by
  obtain ⟨l, hl, hstands⟩ := (Option.any_eq_true _ _).1 h
  obtain ⟨hremoved, hbreak⟩ := Line.stands_iff.1 hstands
  exact ⟨l, hl, hremoved, fun hb => absurd hb (by simp [hbreak])⟩

/-- A line break stays exactly if it follows content and does not lead to an end. -/
theorem staysAt_of_breaks (h : ls[i]?.any Line.breaks = true) :
    StaysAt ls i ↔ FollowsContent ls i ∧ ¬LeadsToEnd ls i := by
  obtain ⟨l, hl, hbreaks⟩ := (Option.any_eq_true _ _).1 h
  obtain ⟨hremoved, hbreak⟩ := Line.breaks_iff.1 hbreaks
  rw [StaysAt]
  simp [hl, hremoved, hbreak]

/-- What neither stays nor is removed is a line break. -/
theorem breaks_of_not_staysAt (hi : i < ls.length) (hstays : ¬StaysAt ls i)
    (hremoved : ls[i]?.any Line.isRemoved = false) : ls[i]?.any Line.breaks = true := by
  have hstands : ls[i]?.any Line.stands ≠ true := fun h => hstays (staysAt_of_stands h)
  rw [List.getElem?_eq_getElem hi] at hremoved hstands ⊢
  simp only [Option.any_some] at hremoved hstands ⊢
  have hbreak := Line.stands_eq_false_iff.1 (Bool.eq_false_iff.2 hstands)
  exact Line.breaks_iff.2 ⟨hremoved, by simpa [hremoved] using hbreak⟩

/-! ### The last line that stays -/

/-- An environment is closed at the position `k`, and at the position `c` stands the last line
before it that shows something. -/
structure LastBeforeEnd (ls : List Line) (c k : Nat) : Prop where
  /-- The line is before the end. -/
  lt : c < k
  /-- It shows something. -/
  shows : ls[c]?.any Line.shows = true
  /-- The environment is closed. -/
  ends : ls[k]?.any Line.ends = true
  /-- In between, nothing is shown. -/
  between : ∀ j < k, c < j → ls[j]?.any Line.shows = false

/-- The line break at the position `b` is the last line before the position `k` that stays. -/
structure LastBreak (ls : List Line) (b k : Nat) : Prop where
  /-- The line break is before the position. -/
  lt : b < k
  /-- It is a line break. -/
  breaks : ls[b]?.any Line.breaks = true
  /-- It stays. -/
  stays : StaysAt ls b
  /-- In between, nothing stays. -/
  last : ∀ j < k, b < j → ¬StaysAt ls j

namespace LastBeforeEnd

theorem lt_length (h : LastBeforeEnd ls c k) : k < ls.length := by
  obtain ⟨l, hl, -⟩ := (Option.any_eq_true _ _).1 h.ends
  exact (List.getElem?_eq_some_iff.1 hl).1

/-- The content that the last line break follows is what was shown last. -/
theorem removed_of_lastBreak (h : LastBeforeEnd ls c k) (hb : LastBreak ls b k) :
    c < b ∧ ls[c]?.any Line.isContent = true ∧
      ∀ j < b, c < j → ls[j]?.any Line.isRemoved = true := by
  have hstands : ls[c]?.any Line.stands = true := any_mono (fun _ => Line.stands_of_shows) h.shows
  obtain ⟨n, hnb, hcontent, hremoved⟩ := ((staysAt_of_breaks hb.breaks).1 hb.stays).1
  have hshows : ls[n]?.any Line.shows = true := any_mono (fun _ => Line.shows_of_isContent) hcontent
  have hcb : c < b := by
    rcases Nat.lt_trichotomy c b with hlt | rfl | hlt
    · exact hlt
    · -- a line break does not stand
      exact (not_any_both (fun _ => Line.stands_eq_false_of_breaks) hb.breaks hstands).elim
    · exact absurd (staysAt_of_stands hstands) (hb.last c h.lt hlt)
  have hn : n = c := by
    rcases Nat.lt_trichotomy n c with hlt | heq | hlt
    · -- what was shown last would have been removed
      have hgone := hremoved c hcb hlt
      exact (not_any_both (fun _ => Line.stands_eq_false_of_isRemoved) hgone hstands).elim
    · exact heq
    · have hnone := h.between n (Nat.lt_trans hnb hb.lt) hlt
      exact absurd hshows (by simp [hnone])
  subst hn
  exact ⟨hcb, hcontent, hremoved⟩

/-- From the last line break on there are only line breaks. -/
theorem breaks_of_lastBreak (h : LastBeforeEnd ls c k) (hb : LastBreak ls b k) :
    ∀ j < k, b ≤ j → ls[j]?.any Line.breaks = true := by
  have hlost : ¬LeadsToEnd ls b := ((staysAt_of_breaks hb.breaks).1 hb.stays).2
  intro j hjk hbj
  rcases Nat.eq_or_lt_of_le hbj with rfl | hbj
  · exact hb.breaks
  have hj : j < ls.length := Nat.lt_trans hjk h.lt_length
  refine breaks_of_not_staysAt hj (hb.last j hjk hbj) (Bool.eq_false_iff.2 fun hgone => ?_)
  -- the line break would lead to the end, past a removed line
  refine hlost ⟨k, h.lt_length, hb.lt, h.ends, fun i hik hbi => ?_, j, hjk, hbj, hgone⟩
  exact Bool.eq_false_iff.2 fun hstands => hb.last i hik hbi (staysAt_of_stands hstands)

/-- Removed lines behind content and then line breaks, up to the end: the first of the line breaks
is the last line that stays. -/
theorem lastBreak (h : LastBeforeEnd ls c k) (hcontent : ls[c]?.any Line.isContent = true)
    (hcb : c < b) (hbk : b < k) (hremoved : ∀ j < b, c < j → ls[j]?.any Line.isRemoved = true)
    (hbreaks : ∀ j < k, b ≤ j → ls[j]?.any Line.breaks = true) : LastBreak ls b k := by
  have hb := hbreaks b hbk (Nat.le_refl b)
  have hfollows : FollowsContent ls b := ⟨c, hcb, hcontent, hremoved⟩
  have hlost : ¬LeadsToEnd ls b := by
    rintro ⟨n, -, hbn, hends, hnone, j, hjn, hbj, hgone⟩
    rcases Nat.lt_or_ge k n with hkn | hnk
    · -- the line at `k` stands before the one at `n`
      have hstands : ls[k]?.any Line.stands = true := any_mono (fun _ => Line.stands_of_ends) h.ends
      exact absurd hstands (by simp [hnone k hkn hbk])
    · have hbreak := hbreaks j (by omega) (by omega)
      exact not_any_both (fun _ => Line.isRemoved_eq_false_of_breaks) hbreak hgone
  refine ⟨hbk, hb, (staysAt_of_breaks hb).2 ⟨hfollows, hlost⟩, fun j hjk hbj hj => ?_⟩
  -- a later line break follows a line break
  have hbreak := hbreaks j hjk (by omega)
  obtain ⟨n, hnj, hcontent', hremoved'⟩ := ((staysAt_of_breaks hbreak).1 hj).1
  rcases Nat.lt_or_ge n b with hnb | hbn
  · exact not_any_both (fun _ => Line.isRemoved_eq_false_of_breaks) hb (hremoved' b hbj hnb)
  · have hbreak' := hbreaks n (by omega) hbn
    have hstands : ls[n]?.any Line.stands = true :=
      any_mono (fun _ h => Line.stands_of_shows (Line.shows_of_isContent h)) hcontent'
    exact not_any_both (fun _ => Line.stands_eq_false_of_breaks) hbreak' hstands

/-- A line break is the last line before the end that stays exactly if behind the content shown last
there are removed lines, and then line breaks up to the end. -/
theorem exists_lastBreak_iff (h : LastBeforeEnd ls c k) :
    (∃ b, LastBreak ls b k) ↔ ls[c]?.any Line.isContent = true ∧ ∃ b < k, c < b ∧
      (∀ j < b, c < j → ls[j]?.any Line.isRemoved = true) ∧
      ∀ j < k, b ≤ j → ls[j]?.any Line.breaks = true := by
  constructor
  · rintro ⟨b, hb⟩
    obtain ⟨hcb, hcontent, hremoved⟩ := h.removed_of_lastBreak hb
    exact ⟨hcontent, b, hb.lt, hcb, hremoved, h.breaks_of_lastBreak hb⟩
  · rintro ⟨hcontent, b, hbk, hcb, hremoved, hbreaks⟩
    exact ⟨b, h.lastBreak hcontent hcb hbk hremoved hbreaks⟩

end LastBeforeEnd

end Template

/-! ### Line breaks in the rendered text -/

namespace Layout

variable {l : Layout} {s : Slide} {out : String} {c i k : Nat}

theorem mem_keptLines_iff : i ∈ l.keptLines s ↔ StaysAt (l.fill s) i := by
  rw [keptLines, mem_pick_range_iff (length_keeps _ _), staysAt_iff]

theorem pairwise_keptLines (l : Layout) (s : Slide) : (l.keptLines s).Pairwise (· < ·) :=
  List.pairwise_lt_range.sublist (pick_sublist _ _)

/-- Line `k` is kept and closes an environment, and line `c` is the nearest kept line above it that
is neither blank nor a line break. -/
structure ClosesAfter (l : Layout) (s : Slide) (c k : Nat) : Prop where
  /-- The line that closes the environment is kept. -/
  mem_end : k ∈ l.keptLines s
  /-- It starts like the end of an environment. -/
  closes : endMark <+: trim (l.lineText s k)
  /-- The other line is kept. -/
  mem : c ∈ l.keptLines s
  /-- It is above. -/
  lt : c < k
  /-- It is neither blank nor a line break. -/
  text : trim (l.lineText s c) ≠ [] ∧ trim (l.lineText s c) ≠ lineBreak
  /-- Every kept line between the two is. -/
  between : ∀ j ∈ l.keptLines s, c < j → j < k →
    trim (l.lineText s j) = [] ∨ trim (l.lineText s j) = lineBreak

/-- Line `i` is removed because of a plot slot. -/
def RemovesLine (l : Layout) (s : Slide) (i : Nat) : Prop :=
  (l.fill s)[i]?.any Line.isRemoved = true

/-- Line `i` is a line break, kept or not, and is not removed because of a plot slot. -/
def BreaksLine (l : Layout) (s : Slide) (i : Nat) : Prop := (l.fill s)[i]?.any Line.breaks = true

/-- In the rendered text a line break of its own stands directly above what line `k` is filled to.
The kept lines above line `k` tell which line of the text that is. -/
def BreakAbove (l : Layout) (s : Slide) (out : String) (k : Nat) : Prop :=
  ∃ above t below, lines out.toList = above ++ t :: l.lineText s k :: below ∧
    above.length + 1 = ((l.keptLines s).filter (· < k)).length ∧ trim t = lineBreak

/-- A kept line is filled to a line that is not removed. -/
theorem exists_line_of_mem (hi : i ∈ l.keptLines s) :
    ∃ line, (l.fill s)[i]? = some line ∧ line.isRemoved = false ∧ l.lineText s i = line.text := by
  obtain ⟨line, hline, hremoved, -⟩ := mem_keptLines_iff.1 hi
  have hline : (l.fill s)[i]? = some line := hline
  exact ⟨line, hline, hremoved, by simp [lineText, hline]⟩

theorem ClosesAfter.lastBeforeEnd (h : l.ClosesAfter s c k) : LastBeforeEnd (l.fill s) c k := by
  obtain ⟨endLine, hend, hendRemoved, hendText⟩ := exists_line_of_mem h.mem_end
  obtain ⟨line, hline, hremoved, htext⟩ := exists_line_of_mem h.mem
  refine ⟨h.lt, ?_, ?_, fun j hjk hcj => ?_⟩
  · have hblank : line.isBlank = false := by
      rw [Line.isBlank, ← htext]
      exact beq_eq_false_iff_ne.2 h.text.1
    have hbreak : line.isBreak = false := by
      rw [Line.isBreak, ← htext]
      exact beq_eq_false_iff_ne.2 h.text.2
    simp [hline, Line.shows, Line.stands, hremoved, hbreak, hblank]
  · have hcloses : endLine.closes = true := by
      rw [Line.closes, ← hendText]
      exact List.isPrefixOf_iff_prefix.2 h.closes
    have hbreak : endLine.isBreak = false := by
      refine beq_eq_false_iff_ne.2 fun heq => ?_
      have hprefix := h.closes
      rw [hendText, heq] at hprefix
      exact absurd hprefix (by decide)
    simp [hend, Line.ends, Line.stands, hendRemoved, hbreak, hcloses]
  · refine Bool.eq_false_iff.2 fun hshows => ?_
    have hstands := any_mono (fun _ => Line.stands_of_shows) hshows
    have hj : j ∈ l.keptLines s := mem_keptLines_iff.2 (staysAt_of_stands hstands)
    obtain ⟨other, hother, -, hotherText⟩ := exists_line_of_mem hj
    have hbetween := h.between j hj hcj hjk
    rw [hotherText] at hbetween
    simp only [hother, Option.any_some, Line.shows, Line.stands, Line.isBreak, Line.isBlank]
      at hshows
    rcases hbetween with heq | heq <;> simp [heq] at hshows

/-- The lines of the rendered text up to a kept line that is not empty. -/
theorem lines_render_of_mem (hout : l.render s = .ok out)
    (hfeed : ∀ t ∈ s.strings, '\n' ∉ t.toList) (hk : k ∈ l.keptLines s)
    (hne : l.lineText s k ≠ []) :
    ∃ below, lines out.toList
      = ((l.keptLines s).filter (· < k)).map (l.lineText s) ++ l.lineText s k :: below := by
  obtain ⟨before, after, hsplit⟩ := List.append_of_mem hk
  have hpairwise := pairwise_keptLines l s
  rw [hsplit, List.pairwise_append, List.pairwise_cons] at hpairwise
  obtain ⟨-, ⟨hafter, -⟩, hbefore⟩ := hpairwise
  have hfilter : (l.keptLines s).filter (· < k) = before := by
    have hall : before.filter (· < k) = before :=
      List.filter_eq_self.2 fun j hj => by simpa using hbefore j hj k List.mem_cons_self
    have hnone : after.filter (· < k) = [] :=
      List.filter_eq_nil_iff.2 fun j hj => by simpa using Nat.le_of_lt (hafter j hj)
    rw [hsplit, List.filter_append, hall, List.filter_cons_of_neg (by simp), hnone, List.append_nil]
  have hlines := areLines_keptLines (s := s) l hfeed
  rw [hsplit, List.map_append, List.map_cons] at hlines
  -- every line before another one ends with a line feed
  have hnonempty : (before.map (l.lineText s)).filter (· ≠ []) = before.map (l.lineText s) := by
    refine List.filter_eq_self.2 fun t ht => ?_
    obtain ⟨u, rfl, -⟩ := hlines.isLine_of_append t ht
    simp
  refine ⟨(after.map (l.lineText s)).filter (· ≠ []), ?_⟩
  rw [lines_of_render hout hfeed, hfilter, hsplit, List.map_append, List.map_cons,
    List.filter_append,
    hnonempty, List.filter_cons_of_pos (by simpa using hne)]

section Above

variable {b : Nat} {below : List (List Char)}

theorem mem_keptAbove_iff :
    i ∈ (l.keptLines s).filter (· < k) ↔ StaysAt (l.fill s) i ∧ i < k := by
  rw [List.mem_filter, mem_keptLines_iff, decide_eq_true_eq]

theorem pairwise_keptAbove (l : Layout) (s : Slide) (k : Nat) :
    ((l.keptLines s).filter (· < k)).Pairwise (· < ·) :=
  (pairwise_keptLines l s).sublist List.filter_sublist

/-- If a line break stands directly above, it is the last kept line above. -/
theorem exists_lastBreak_of_breakAbove (hlines : lines out.toList
      = ((l.keptLines s).filter (· < k)).map (l.lineText s) ++ l.lineText s k :: below)
    (h : l.BreakAbove s out k) : ∃ b, LastBreak (l.fill s) b k := by
  obtain ⟨above, t, below', habove, hlength, hbreak⟩ := h
  rw [hlines, List.append_cons above] at habove
  obtain ⟨hmap, -⟩ := List.append_inj habove (by simp [hlength])
  -- the last of the kept lines above is the one with this text
  obtain ⟨before, last, hsplit, -, hlast⟩ := List.map_eq_append_iff.1 hmap
  obtain ⟨b, rfl, rfl⟩ := List.map_eq_singleton_iff.1 hlast
  have hb : StaysAt (l.fill s) b ∧ b < k := mem_keptAbove_iff.1 (by simp [hsplit])
  obtain ⟨line, hline, hremoved, htext⟩ := exists_line_of_mem (mem_keptLines_iff.2 hb.1)
  have hbreaks : line.breaks = true :=
    Line.breaks_iff.2 ⟨hremoved, by rw [Line.isBreak, ← htext, hbreak, beq_self_eq_true]⟩
  refine ⟨b, hb.2, by simpa [hline] using hbreaks, hb.1, fun j hjk hbj hj => ?_⟩
  have hpairwise := pairwise_keptAbove l s k
  have hmem : j ∈ (l.keptLines s).filter (· < k) := mem_keptAbove_iff.2 ⟨hj, hjk⟩
  rw [hsplit, List.pairwise_append] at hpairwise
  rw [hsplit, List.mem_append, List.mem_singleton] at hmem
  rcases hmem with hbefore | rfl
  · have hjb := hpairwise.2.2 j hbefore b List.mem_cons_self
    omega
  · omega

/-- If a line break is the last kept line above, it stands directly above. -/
theorem breakAbove_of_lastBreak (hlines : lines out.toList
      = ((l.keptLines s).filter (· < k)).map (l.lineText s) ++ l.lineText s k :: below)
    (h : LastBreak (l.fill s) b k) : l.BreakAbove s out k := by
  obtain ⟨before, after, hsplit⟩ := List.append_of_mem (mem_keptAbove_iff.2 ⟨h.stays, h.lt⟩)
  -- nothing is kept behind the line break
  have hafter : after = [] := by
    refine List.eq_nil_iff_forall_not_mem.2 fun j hj => ?_
    obtain ⟨hstays, hjk⟩ : StaysAt (l.fill s) j ∧ j < k :=
      mem_keptAbove_iff.1 (by simp [hsplit, hj])
    have hpairwise := pairwise_keptAbove l s k
    rw [hsplit, List.pairwise_append, List.pairwise_cons] at hpairwise
    exact h.last j hjk (hpairwise.2.1.1 j hj) hstays
  obtain ⟨line, hline, -, htext⟩ := exists_line_of_mem (mem_keptLines_iff.2 h.stays)
  have hbreak : line.isBreak = true := by
    have hbreaks := h.breaks
    rw [hline, Option.any_some] at hbreaks
    exact (Line.breaks_iff.1 hbreaks).2
  refine ⟨before.map (l.lineText s), l.lineText s b, below, ?_, ?_, ?_⟩
  · rw [hlines, hsplit, hafter]
    simp
  · rw [hsplit, hafter]
    simp
  · rw [htext]
    exact eq_of_beq hbreak

end Above

/-- The line directly above is a line break exactly if a line break is the last kept line above. -/
theorem breakAbove_iff_exists_lastBreak (hout : l.render s = .ok out)
    (hfeed : ∀ t ∈ s.strings, '\n' ∉ t.toList) (hk : k ∈ l.keptLines s)
    (hne : l.lineText s k ≠ []) :
    l.BreakAbove s out k ↔ ∃ b, LastBreak (l.fill s) b k := by
  obtain ⟨below, hlines⟩ := lines_render_of_mem hout hfeed hk hne
  constructor
  · intro h
    exact exists_lastBreak_of_breakAbove hlines h
  · rintro ⟨b, hb⟩
    exact breakAbove_of_lastBreak hlines hb

/-- **Line breaks before the end of an environment.** Let line `c` be the nearest kept line above
the end of an environment that is neither blank nor a line break, in a slide without line feeds. In
the rendered text a line break stands directly above the end exactly if line `c` opens no
environment and is followed by removed lines, if any, and then by line breaks up to the end. So
there is none if a line is removed somewhere behind a line break. -/
theorem breakAbove_end_iff (hout : l.render s = .ok out) (hfeed : ∀ t ∈ s.strings, '\n' ∉ t.toList)
    (h : l.ClosesAfter s c k) :
    (lines out.toList)[((l.keptLines s).filter (· < k)).length]? = some (l.lineText s k) ∧
    (l.BreakAbove s out k ↔ ¬beginMark <+: trim (l.lineText s c) ∧ ∃ b < k, c < b ∧
      (∀ j < b, c < j → l.RemovesLine s j) ∧ ∀ j < k, b ≤ j → l.BreaksLine s j) ∧
    ∀ b, c < b → l.BreaksLine s b → ∀ j < k, b < j → l.RemovesLine s j → ¬l.BreakAbove s out k := by
  have hne : l.lineText s k ≠ [] := by
    intro hnil
    have hprefix := h.closes
    rw [hnil] at hprefix
    exact absurd hprefix (by decide)
  obtain ⟨line, hline, -, htext⟩ := exists_line_of_mem h.mem
  have hopens : (l.fill s)[c]?.any Line.isContent = true
      ↔ ¬beginMark <+: trim (l.lineText s c) := by
    have hshows := h.lastBeforeEnd.shows
    rw [hline, Option.any_some] at hshows
    rw [hline, Option.any_some, Line.isContent_eq, hshows, Bool.true_and, Bool.not_eq_true', htext,
      ← List.isPrefixOf_iff_prefix, Bool.not_eq_true]
    exact Iff.rfl
  have hiff : l.BreakAbove s out k ↔ ¬beginMark <+: trim (l.lineText s c) ∧ ∃ b < k, c < b ∧
      (∀ j < b, c < j → l.RemovesLine s j) ∧ ∀ j < k, b ≤ j → l.BreaksLine s j := by
    rw [breakAbove_iff_exists_lastBreak hout hfeed h.mem_end hne,
      h.lastBeforeEnd.exists_lastBreak_iff, hopens]
    exact Iff.rfl
  refine ⟨?_, hiff, fun b hcb hb j hjk hbj hj habove => ?_⟩
  · obtain ⟨below, hlines⟩ := lines_render_of_mem hout hfeed h.mem_end hne
    rw [hlines, List.getElem?_append_right (by simp)]
    simp
  · -- the line break and the removed line are on the two sides of the first line break
    obtain ⟨-, n, hnk, hcn, hremoved, hbreaks⟩ := hiff.1 habove
    rcases Nat.lt_or_ge b n with hbn | hnb
    · exact not_any_both (fun _ => Line.isRemoved_eq_false_of_breaks) hb (hremoved b hbn hcb)
    · exact not_any_both (fun _ => Line.isRemoved_eq_false_of_breaks) (hbreaks j hjk (by omega)) hj

/-- A slide with one plot, for layouts with room for two. -/
def lonePlot : Slide := { title := "T", plots := [⟨"a.pdf", ""⟩] }

/-- A line break behind each plot. -/
def breakBehindEach : Layout :=
  ⟨"custom", 2, "@PLOT1\n\\\\\n@PLOT2\n\\\\\n\\end\x7bcenter\x7d\n"⟩

/-- A line break behind both plots. -/
def breakBehindBoth : Layout :=
  ⟨"custom", 2, "@PLOT1\n@PLOT2\n\\\\\n\\end\x7bcenter\x7d\n"⟩

/-- The missing plot is behind the line break, so the line break goes. -/
theorem not_breakAbove_of_breakBehindEach :
    breakBehindEach.render lonePlot = .ok "a.pdf\n\\end\x7bcenter\x7d\n" ∧
    breakBehindEach.ClosesAfter lonePlot 0 4 ∧ breakBehindEach.RemovesLine lonePlot 2 ∧
    ¬breakBehindEach.BreakAbove lonePlot "a.pdf\n\\end\x7bcenter\x7d\n" 4 := by
  have hout : breakBehindEach.render lonePlot = .ok "a.pdf\n\\end\x7bcenter\x7d\n" :=
    render_eq_ok_iff.2 ⟨by decide, by decide +kernel⟩
  have hcloses : breakBehindEach.ClosesAfter lonePlot 0 4 :=
    ⟨by decide +kernel, by decide +kernel, by decide +kernel, by decide, by decide +kernel,
      by decide +kernel⟩
  have hremoves : breakBehindEach.RemovesLine lonePlot 2 := by
    rw [RemovesLine]
    decide +kernel
  have hbreaks : breakBehindEach.BreaksLine lonePlot 1 := by
    rw [BreaksLine]
    decide +kernel
  obtain ⟨-, -, hnone⟩ := breakAbove_end_iff hout (by decide) hcloses
  exact ⟨hout, hcloses, hremoves, hnone 1 (by decide) hbreaks 2 (by decide) (by decide) hremoves⟩

/-- The missing plot is before the line break, and the line break stays right above the end. -/
theorem breakAbove_of_breakBehindBoth :
    breakBehindBoth.render lonePlot = .ok "a.pdf\n\\\\\n\\end\x7bcenter\x7d\n" ∧
    (∀ t ∈ lonePlot.strings, '\n' ∉ t.toList) ∧
    breakBehindBoth.ClosesAfter lonePlot 0 3 ∧ breakBehindBoth.RemovesLine lonePlot 1 ∧
    breakBehindBoth.BreakAbove lonePlot "a.pdf\n\\\\\n\\end\x7bcenter\x7d\n" 3 := by
  refine ⟨render_eq_ok_iff.2 ⟨by decide, by decide +kernel⟩, by decide, ?_, ?_, ?_⟩
  · exact ⟨by decide +kernel, by decide +kernel, by decide +kernel, by decide, by decide +kernel,
      by decide +kernel⟩
  · rw [RemovesLine]
    decide +kernel
  · exact ⟨["a.pdf\n".toList], "\\\\\n".toList, [], by decide +kernel, by decide +kernel,
      by decide +kernel⟩

end Layout

end PlotDeck
