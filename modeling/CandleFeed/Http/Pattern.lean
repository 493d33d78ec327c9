

namespace CandleFeed.Http

inductive Pattern.Piece
  | literal (c : Char)
  /-- All up to the next `/`. It may be empty, but not at the end of a path. -/
  | segment
  | rest
deriving DecidableEq

abbrev Pattern := List Pattern.Piece

namespace Pattern

inductive Sign
  | text (c : Char)
  | opening
  | closing
deriving DecidableEq

def signs : List Char → List Sign
  | [] => []
  | '{' :: '{' :: cs => .text '{' :: signs cs
  | '}' :: '}' :: cs => .text '}' :: signs cs
  | '{' :: cs => .opening :: signs cs
  | '}' :: cs => .closing :: signs cs
  | c :: cs => .text c :: signs cs

def pieces (named : Bool) : List Sign → Pattern
  | [] => []
  | .opening :: .text '*' :: rest => .rest :: pieces true rest
  | .opening :: rest => .segment :: pieces true rest
  | .closing :: rest => pieces false rest
  | .text c :: rest => if named then pieces true rest else .literal c :: pieces false rest

def ofString (text : String) : Pattern :=
  pieces false (signs text.toList)

def accepts : Pattern → List Char → Bool
  | [], cs => cs.isEmpty
  | .literal _ :: _, [] => false
  | .literal p :: pattern, c :: cs => p == c && accepts pattern cs
  | .segment :: pattern, cs => !cs.isEmpty && accepts pattern (cs.dropWhile (· ≠ '/'))
  | .rest :: _, cs => !cs.isEmpty

example : (ofString "/s/\x7bid\x7d/t").accepts "/s/a/t".toList = true := by decide +kernel

example : (ofString "/s/\x7bid\x7d").accepts "/s/".toList = false := by decide +kernel

example : (ofString "/s/\x7b*tail\x7d").accepts "/s/a/t".toList = true := by decide +kernel

example : (ofString "/\x7b\x7ba\x7d\x7d").accepts "/\x7ba\x7d".toList = true := by decide +kernel

end Pattern

end CandleFeed.Http
