import PlotDeck.Text.Position

/-!
# Tokens of a template

A template is text in which `@NAME` marks a place to be filled. It falls into three kinds of
**token**: a placeholder, a run of other text on one line, and a line feed. `lex` cuts a template
into tokens, each as long as it can be; `flatMap_text_lex` says that they tile it.
-/

namespace PlotDeck.Template

/-- A character that can stand in a placeholder's name: an ASCII letter, digit or underscore. -/
def isNameChar (c : Char) : Bool := c.isAlphanum || c == '_'

/-- A character of a literal run: anything but the placeholder mark and the line feed. -/
def isLiteralChar (c : Char) : Bool := c != '@' && c != '\n'

/-- A piece of a template. -/
inductive Token where
  /-- A placeholder with this name, written after an `@`. -/
  | placeholder (name : List Char)
  /-- A run of text that holds neither a placeholder nor a line feed. -/
  | literal (text : List Char)
  /-- A line feed. -/
  | newline
deriving DecidableEq, Repr

namespace Token

/-- The piece of the template that a token stands for. -/
def text : Token → List Char
  | placeholder name => '@' :: name
  | literal t => t
  | newline => ['\n']

end Token

theorem length_dropWhile_le {p : Char → Bool} (t : List Char) :
    (t.dropWhile p).length ≤ t.length :=
  (List.dropWhile_suffix p).length_le

/-- The tokens of a template. A placeholder takes all name characters that follow its mark. -/
def lex : List Char → List Token
  | [] => []
  | c :: r =>
    if c = '@' then .placeholder (r.takeWhile isNameChar) :: lex (r.dropWhile isNameChar)
    else if c = '\n' then .newline :: lex r
    else .literal (c :: r.takeWhile isLiteralChar) :: lex (r.dropWhile isLiteralChar)
termination_by t => t.length
decreasing_by
  all_goals simp only [List.length_cons]
  all_goals first | exact Nat.lt_succ_of_le (length_dropWhile_le r) | omega

@[simp] theorem lex_nil : lex [] = [] := by rw [lex]

/-- The tokens of a template put together are the template. -/
theorem flatMap_text_lex (t : List Char) : (lex t).flatMap Token.text = t := by
  fun_induction lex t <;> simp_all [Token.text, List.takeWhile_append_dropWhile]

/-- The byte range of each token, for tokens that start at byte `start`. -/
def spans : Nat → List Token → List (Nat × Nat)
  | _, [] => []
  | start, tok :: rest =>
    let stop := start + Text.byteSize tok.text
    (start, stop) :: spans stop rest

end PlotDeck.Template
