import PlotDeck.Yaml.Token

/-!
# Plain scalars

A plain scalar is words with gaps between them, over one line or several. Gaps are folded; what ends
a word depends on whether the scalar stands in brackets.
-/

namespace PlotDeck.Yaml

/-- A bracket, a brace or a comma. -/
def isFlowSign (c : Char) : Bool :=
  c == ',' || c == '[' || c == ']' || c == '\x7b' || c == '\x7d'

/-- Whether a text starts with a colon that a sign follows in brackets. -/
def isBadColon : List Char → Bool
  | ':' :: c :: _ => isFlowSign c || c == '?'
  | _ => false

/-- Whether a text starts with something that ends a word. -/
def endsWord (inFlow : Bool) : List Char → Bool
  | [] => true
  | c :: r =>
    isGap c || (c == ':' && (r.head?.map isGap).getD true) ||
      (inFlow && (isFlowSign c || isBadColon (c :: r)))

/-- The word that a text starts with. -/
def takeWord (inFlow : Bool) : List Char → List Char
  | [] => []
  | c :: r => if endsWord inFlow (c :: r) then [] else c :: takeWord inFlow r

/-- A tab that stands too far left behind the first line end of a gap. -/
def strayTab? (indent : Int) : Bool → Mark → List Char → Option Mark
  | _, _, [] => none
  | _, m, '\r' :: '\n' :: r => strayTab? indent true (m.over ['\r', '\n']) r
  | behind, m, c :: r =>
    if behind && m.column < indent && c == '\t' then some m
    else strayTab? indent (behind || isBreak c) (m.over [c]) r

/-- A plain scalar that has been read. -/
structure PlainScalar where
  /-- Its text. -/
  text : List Char := []
  /-- Where its last word ends. -/
  stop : Mark
  /-- Whether a line has ended behind its last word. -/
  endsLine : Bool := false

/-- Reads words and gaps. The gap before the next word has been read but not yet taken up. -/
def plainWords (inFlow : Bool) (indent : Int) (start : Mark) :
    Nat → Cursor → List Char → PlainScalar → Except Fault (PlainScalar × Cursor)
  | 0, c, _, s => .ok (s, c)
  | fuel + 1, c, gap, s =>
    if c.atAnyDocument || c.starts '#' then .ok (s, c)
    else
      let word := takeWord inFlow c.rest
      let after := c.drop word.length
      if inFlow && isBadColon after.rest then after.fail .plainScalar start .colonInFlow
      else
        let s := if word = [] then s
          else { text := s.text ++ foldGap gap ++ word, stop := after.mark, endsLine := false }
        let (gap, next) := after.span isGap
        if gap = [] then .ok (s, next)
        else
          match strayTab? indent false after.mark gap with
          | some m => .error (.found .tabBelowIndent m (some (.plainScalar, start)))
          | none =>
            let s := { s with endsLine := s.endsLine || gap.any isBreak }
            if !inFlow && next.mark.column < indent then .ok (s, next)
            else plainWords inFlow indent start fuel next gap s

/-- Reads a plain scalar inside a block that is indented by `indent - 1`. -/
def plainScalar (inFlow : Bool) (indent : Int) (c : Cursor) : Except Fault (PlainScalar × Cursor) :=
  plainWords inFlow indent c.mark (c.size + 1) c [] { stop := c.mark }

end PlotDeck.Yaml
