import PlotDeck.Text.Blank

/-!
# Image directives

An image is placed by an **embed directive**: `\includegraphics`, a header of stars, blanks,
`[options]` and `<overlays>` in any order, and the path between braces. When the path of a directive
is not filled, the directive has to go as a whole. `cutEmbed?` takes a text that ends at the opening
brace of the path and cuts the directive off its end.
-/

namespace PlotDeck.Template

open Text (isBlank trimEnd)

/-- The command that starts an embed directive. -/
def embedCommand : List Char := "\\includegraphics".toList

/-- Peels the groups of a header off the end of a text, nearest to the brace first. The text is
given in reverse order, and so is what is left of it. -/
def peelHeader (t : List Char) : List Char :=
  match _h : t.dropWhile isBlank with
  | ']' :: inner =>
    match _hi : inner.dropWhile (· != '[') with
    | '[' :: before => peelHeader before
    | _ => ']' :: inner
  | '>' :: inner =>
    match _hi : inner.dropWhile (· != '<') with
    | '<' :: before => peelHeader before
    | _ => '>' :: inner
  | '*' :: before => peelHeader before
  | rest => rest
termination_by t.length
decreasing_by
  all_goals
    have ht := (List.dropWhile_suffix (l := t) isBlank).length_le
    rw [_h] at ht
  · have hb := (List.dropWhile_suffix (l := inner) (· != '[')).length_le
    rw [_hi] at hb
    simp only [List.length_cons] at ht hb ⊢
    omega
  · have hb := (List.dropWhile_suffix (l := inner) (· != '<')).length_le
    rw [_hi] at hb
    simp only [List.length_cons] at ht hb ⊢
    omega
  · simp only [List.length_cons] at ht
    omega

/-- The text before the embed directive that the text ends with, if it ends with one that has been
written up to the brace of its path; blanks may follow the brace. -/
def cutEmbed? (t : List Char) : Option (List Char) :=
  match (trimEnd t).reverse with
  | '{' :: r =>
    let rest := peelHeader r
    if embedCommand.reverse.isPrefixOf rest then
      some (rest.drop embedCommand.length).reverse
    else none
  | _ => none

end PlotDeck.Template
