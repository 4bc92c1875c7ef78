import PlotDeck.Proofs.Text.Line
import PlotDeck.Template.Token

/-!
# Cutting written text into tokens

Text that is written as a run of literal characters, a placeholder or a line feed, each followed by
something that cannot extend it, is cut at these places again (`lex_literal_append`,
`lex_placeholder_append`, `lex_newline_cons`).
-/

namespace PlotDeck.Template

/-- A longest run ends where the first character outside it stands. -/
theorem takeWhile_append_boundary {p : Char → Bool} {t r : List Char}
    (ht : ∀ c ∈ t, p c = true) (hr : ∀ c ∈ r.head?, p c = false) :
    (t ++ r).takeWhile p = t ∧ (t ++ r).dropWhile p = r := by
  rw [List.takeWhile_append_of_pos ht, List.dropWhile_append_of_pos ht]
  cases r with
  | nil => simp
  | cons c r =>
    have hc : p c = false := hr c rfl
    simp [hc]

theorem lex_newline_cons (r : List Char) : lex ('\n' :: r) = .newline :: lex r := by
  rw [lex, if_neg (by decide), if_pos rfl]

theorem lex_placeholder_append {name r : List Char} (hname : ∀ c ∈ name, isNameChar c = true)
    (hr : ∀ c ∈ r.head?, isNameChar c = false) :
    lex ('@' :: (name ++ r)) = .placeholder name :: lex r := by
  obtain ⟨htake, hdrop⟩ := takeWhile_append_boundary hname hr
  rw [lex, if_pos rfl, htake, hdrop]

theorem lex_literal_append {t r : List Char} (hne : t ≠ [])
    (ht : ∀ c ∈ t, isLiteralChar c = true) (hr : ∀ c ∈ r.head?, isLiteralChar c = false) :
    lex (t ++ r) = .literal t :: lex r := by
  cases t with
  | nil => exact absurd rfl hne
  | cons c t =>
    have hc : c ≠ '@' ∧ c ≠ '\n' := by simpa [isLiteralChar] using ht c List.mem_cons_self
    obtain ⟨htake, hdrop⟩ :=
      takeWhile_append_boundary (fun d hd => ht d (List.mem_cons_of_mem c hd)) hr
    rw [List.cons_append, lex, if_neg hc.1, if_neg hc.2, htake, hdrop]

/-- A run does not reach over a character outside it. -/
theorem takeWhile_append_cons {p : Char → Bool} {c : Char} (hc : p c = false) (t r : List Char) :
    (t ++ c :: r).takeWhile p = t.takeWhile p ∧
      (t ++ c :: r).dropWhile p = t.dropWhile p ++ c :: r := by
  induction t with
  | nil => simp [hc]
  | cons d t ih => by_cases hd : p d = true <;> simp [hd, ih]

/-- A character that extends no token starts one. -/
theorem lex_append_cons {c : Char} (hname : isNameChar c = false)
    (hliteral : isLiteralChar c = false)
    (t r : List Char) : lex (t ++ c :: r) = lex t ++ lex (c :: r) := by
  have hnames := takeWhile_append_cons hname
  have hliterals := takeWhile_append_cons hliteral
  fun_induction lex t with
  | case1 => rfl
  | case2 t ih => rw [List.cons_append, lex, if_pos rfl, (hnames t r).1, (hnames t r).2, ih]; rfl
  | case3 t _ ih => rw [List.cons_append, lex_newline_cons, ih]; rfl
  | case4 d t hd hd' ih =>
    rw [List.cons_append, lex, if_neg hd, if_neg hd', (hliterals t r).1, (hliterals t r).2, ih]
    rfl

/-- Tokens end where a line ends. -/
theorem lex_append_newline_cons (t r : List Char) :
    lex (t ++ '\n' :: r) = lex t ++ .newline :: lex r := by
  rw [lex_append_cons (by decide) (by decide), lex_newline_cons]

/-- A template is cut into tokens line by line. -/
theorem flatMap_lex_lines (t : List Char) : (Text.lines t).flatMap lex = lex t := by
  induction t using Text.line_induction with
  | last u hu =>
    rw [Text.lines_of_not_mem hu]
    split <;> simp_all
  | line u r hu ih =>
    rw [Text.lines_append_newline hu, List.flatMap_cons, ih, lex_append_newline_cons,
      lex_append_newline_cons]
    simp

/-- A placeholder's name consists of name characters. -/
theorem isNameChar_of_mem_lex {t name : List Char} (h : .placeholder name ∈ lex t) :
    ∀ c ∈ name, isNameChar c = true := by
  fun_induction lex t with
  | case1 => simp at h
  | case2 r ih =>
    rcases List.mem_cons.1 h with h | h
    · obtain rfl := Token.placeholder.inj h
      exact List.all_eq_true.1 List.all_takeWhile
    · exact ih h
  | case3 r _ ih => exact ih (by simpa using h)
  | case4 c r _ _ ih => exact ih (by simpa using h)

/-- A literal run consists of literal characters. -/
theorem isLiteralChar_of_mem_lex {t u : List Char} (h : .literal u ∈ lex t) :
    ∀ c ∈ u, isLiteralChar c = true := by
  fun_induction lex t with
  | case1 => simp at h
  | case2 r ih => exact ih (by simpa using h)
  | case3 r _ ih => exact ih (by simpa using h)
  | case4 c r hc hc' ih =>
    rcases List.mem_cons.1 h with h | h
    · obtain rfl := Token.literal.inj h
      refine List.forall_mem_cons.2 ⟨?_, List.all_eq_true.1 List.all_takeWhile⟩
      simp [isLiteralChar, hc, hc']
    · exact ih h

/-- The literal token of a text, if the text is not empty. -/
def literals (t : List Char) : List Token := if t = [] then [] else [.literal t]

theorem lex_literals_append {t r : List Char} (ht : ∀ c ∈ t, isLiteralChar c = true)
    (hr : ∀ c ∈ r.head?, isLiteralChar c = false) : lex (t ++ r) = literals t ++ lex r := by
  by_cases hne : t = []
  · simp [hne, literals]
  · rw [lex_literal_append hne ht hr, literals, if_neg hne, List.singleton_append]

end PlotDeck.Template
