namespace JournalSelect.Glob

-- What takes one character: the character itself, any character but the slash, or a character inside
-- (outside, if negated) all of the closed ranges.
inductive Token where
  | literal (c : Char)
  | anyChar
  | charClass (negated : Bool) (ranges : List (Char × Char))
deriving DecidableEq, Repr

-- A run of tokens. A star before it lets it skip ahead within a path segment.
structure Chunk where
  star : Bool
  tokens : List Token
deriving DecidableEq, Repr

structure Pattern where
  chunks : List Chunk
deriving DecidableEq, Repr

def Token.accepts : Token → Char → Bool
  | .literal l, c => l == c
  | .anyChar, c => c != '/'
  | .charClass negated ranges, c => (ranges.any fun range => range.1 ≤ c && c ≤ range.2) != negated

-- What is left of a text after the tokens took a character each.
def strip? : List Token → List Char → Option (List Char)
  | [], rest => some rest
  | _ :: _, [] => none
  | token :: tokens, c :: rest => if token.accepts c then strip? tokens rest else none

-- As `strip?`. With `last`, nothing may be left.
def stripAs? (last : Bool) (tokens : List Token) (text : List Char) : Option (List Char) :=
  (strip? tokens text).filter fun rest => !last || rest.isEmpty

-- The tokens at the leftmost place that a slash does not cut off.
def seek? (last : Bool) (tokens : List Token) : List Char → Option (List Char)
  | [] => stripAs? last tokens []
  | c :: rest =>
    match stripAs? last tokens (c :: rest) with
    | some left => some left
    | none => if c = '/' then none else seek? last tokens rest

def Chunk.advance? (chunk : Chunk) (last : Bool) (text : List Char) : Option (List Char) :=
  if chunk.star then seek? last chunk.tokens text else stripAs? last chunk.tokens text

-- Each chunk takes the first place it fits and never gives it up again. Only the last chunk has to
-- reach the end of the text, and a star at the end takes all that is left of a path segment.
def matchChunks : List Chunk → List Char → Bool
  | [], text => text.isEmpty
  | chunk :: chunks, text =>
    if chunk.star && chunk.tokens.isEmpty then !text.contains '/'
    else
      match chunk.advance? chunks.isEmpty text with
      | some rest => matchChunks chunks rest
      | none => false

def Pattern.accepts (p : Pattern) (text : String) : Bool :=
  matchChunks p.chunks text.toList

end JournalSelect.Glob
