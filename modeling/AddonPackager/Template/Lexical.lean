import AddonPackager.Json.Strict
import AddonPackager.Template.Fault
import AddonPackager.Text.Split
import AddonPackager.Text.Trim

/-! The tokens of a template. Text outside of tags is one token; the inside of a tag is cut into
names, literals and symbols. A place that no token fits becomes an invalid token, so that a
fault shows only where the template is read that far.
-/

namespace AddonPackager.Template

/-- Signs inside tags. -/
inductive Symbol where
  | quotient
  | equal
  | different
  | atLeast
  | atMost
  | plus
  | minus
  | times
  | remainder
  | dot
  | comma
  | colon
  | tilde
  | pipe
  | assign
  | greater
  | less
  | openParen
  | closeParen
  | openBracket
  | closeBracket
  | openBrace
  | closeBrace
  deriving DecidableEq, Repr

/-- A token. -/
inductive Token where
  | data (content : String)
  | printStart
  | printEnd
  | tagStart
  | tagEnd
  | name (text : String)
  | text (content : String)
  | integer (value : Nat)
  | symbol (symbol : Symbol)
  | invalid (fault : Fault)
  deriving DecidableEq, Repr

namespace Lexical

open Text

/-! Text literals -/

/-- The raw content of a text literal up to its closing quote, and what follows. A backslash
keeps the next character from closing the literal.
-/
def rawLiteral? (quote : Char) : List Char → Option (List Char × List Char)
  | [] => none
  | ['\\'] => none
  | '\\' :: c :: rest =>
      (rawLiteral? quote rest).map fun (raw, after) => ('\\' :: c :: raw, after)
  | c :: rest =>
      if c = quote then
        some ([], rest)
      else
        (rawLiteral? quote rest).map fun (raw, after) => (c :: raw, after)

/-- The character that a one letter escape stands for. -/
def simpleEscape? (c : Char) : Option Char :=
  if c = '\'' then some c else Json.Strict.simpleEscape? c

/-- The content of a raw literal with its escapes resolved. -/
def unescape? : Nat → List Char → Option (List Char)
  | 0, _ => none
  | steps + 1, raw =>
      match raw with
      | [] => some []
      | '\\' :: 'u' :: rest => do
          let (c, rest) ← Json.Strict.readUnicode? rest
          (unescape? steps rest).map (c :: ·)
      | '\\' :: e :: rest => do
          let c ← simpleEscape? e
          (unescape? steps rest).map (c :: ·)
      | c :: rest => if c = '\\' then none else (unescape? steps rest).map (c :: ·)

/-- The text literal that begins behind a quote. -/
def literal (quote : Char) (text : List Char) : Token × List Char :=
  match rawLiteral? quote text with
  | none => (.invalid .syntaxError, [])
  | some (raw, rest) =>
      match unescape? (raw.length + 1) raw with
      | some content => (.text (String.ofList content), rest)
      | none => (.invalid .badEscape, [])

/-! Numbers and names -/

/-- The greatest integer literal. -/
def integerLimit : Nat :=
  Nat.pow 2 128

/-- The integer that a text starts with. Underscores may separate digits. -/
def number (text : List Char) : Token × List Char :=
  let isPart := fun c : Char => c.isDigit || c == '_'
  let digits := text.takeWhile isPart
  let value := Json.ofDigits (digits.filter Char.isDigit)
  if digits.getLast? = some '_' || integerLimit ≤ value then
    (.invalid .syntaxError, [])
  else
    (.integer value, text.dropWhile isPart)

def startsName (c : Char) : Bool :=
  c.isAlpha || c == '_'

def continuesName (c : Char) : Bool :=
  startsName c || c.isDigit

/-- The signs and their symbols, longer signs first. -/
def signs : List (String × Symbol) := [
  ("//", .quotient), ("==", .equal), ("!=", .different), (">=", .atLeast), ("<=", .atMost),
  ("+", .plus), ("-", .minus), ("*", .times), ("%", .remainder), (".", .dot), (",", .comma),
  (":", .colon), ("~", .tilde), ("|", .pipe), ("=", .assign), (">", .greater), ("<", .less),
  ("(", .openParen), (")", .closeParen), ("[", .openBracket), ("]", .closeBracket),
  ("\x7b", .openBrace), ("\x7d", .closeBrace)]

/-- The symbol that a text starts with. -/
def sign? (text : List Char) : Option (Symbol × List Char) :=
  signs.findSome? fun (sign, symbol) =>
    (stripPrefix? sign.toList text).map fun rest => (symbol, rest)

/-- The token that a text inside a tag starts with. -/
def inside (text : List Char) : Token × List Char :=
  match text with
  | [] => (.invalid .syntaxError, [])
  | c :: rest =>
      if c = '\'' || c = '"' then literal c rest
      else if c.isDigit then number text
      else if startsName c then
        (.name (String.ofList (text.takeWhile continuesName)), text.dropWhile continuesName)
      else
        match sign? text with
        | some (symbol, rest) => (.symbol symbol, rest)
        | none => (.invalid .syntaxError, [])

/-- How many more brackets are open after a token than before. -/
def nesting : Token → Int
  | .symbol .openParen | .symbol .openBracket | .symbol .openBrace => 1
  | .symbol .closeParen | .symbol .closeBracket | .symbol .closeBrace => -1
  | _ => 0

/-! Tags -/

/-- Tags that print a value, tags with statements, and comments. -/
inductive Tag where
  | print
  | statement
  | comment
  deriving DecidableEq, Repr

/-- The tag that a character behind an opening brace begins. -/
def Tag.ofChar? (c : Char) : Option Tag :=
  if c = '{' then some .print
  else if c = '%' then some .statement
  else if c = '#' then some .comment
  else none

/-- The two characters that end a tag. -/
def Tag.closing : Tag → List Char
  | .print => ['}', '}']
  | .statement => ['%', '}']
  | .comment => ['#', '}']

/-- The text before the first tag, the tag and what follows its two opening characters. -/
def cutTag : List Char → List Char × Option (Tag × List Char)
  | [] => ([], none)
  | c :: rest =>
      let opened :=
        match rest with
        | d :: after =>
            if c = '{' then (Tag.ofChar? d).map fun tag => (tag, after) else none
        | [] => none
      match opened with
      | some found => ([], some found)
      | none =>
          let r := cutTag rest
          (c :: r.1, r.2)

/-- A sign next to the edge of a tag, and what follows the sign. -/
def edge (text : List Char) : Option Char × List Char :=
  match text with
  | c :: rest => if c = '-' || c = '+' then (some c, rest) else (none, text)
  | [] => (none, [])

/-- The text behind a tag: blanks go if the tag ended with a minus sign. -/
def behind (sign : Option Char) (text : List Char) : List Char :=
  if sign = some '-' then trimStart text else text

/-- The text before a tag: blanks go if the tag starts with a minus sign. -/
def before (sign : Option Char) (text : List Char) : List Char :=
  if sign = some '-' then trimEnd text else text

/-- What follows the end of a tag, if the text starts with it. -/
def tagEnd? (tag : Tag) (text : List Char) : Option (List Char) :=
  match stripPrefix? tag.closing text with
  | some rest => some rest
  | none =>
      match edge text with
      | (some sign, rest) => (stripPrefix? tag.closing rest).map (behind (some sign))
      | (none, _) => none

def isSpace (c : Char) : Bool :=
  c == ' ' || c == '\t' || c == '\n' || c == '\r' || c == '\x0c'

/-- A statement tag that holds nothing but a word: the sign at its end and what follows it. -/
def bareTag? (word text : List Char) : Option (Option Char × List Char) := do
  let named ← stripPrefix? word ((edge text).2.dropWhile isSpace)
  let (sign, closing) := edge (named.dropWhile isSpace)
  let rest ← stripPrefix? Tag.statement.closing closing
  some (sign, rest)

/-- The text of a raw part up to its end tag, the sign at the start of that tag, and what follows
it.
-/
def rawPart? : List Char → Option (List Char × Option Char × List Char)
  | [] => none
  | c :: rest =>
      let ended :=
        match c, rest with
        | '{', '%' :: after =>
            (bareTag? "endraw".toList after).map fun (sign, rest) =>
              ((edge after).1, behind sign rest)
        | _, _ => none
      match ended with
      | some (sign, rest) => some ([], sign, rest)
      | none => (rawPart? rest).map fun (content, after) => (c :: content, after)

/-! Whole templates -/

/-- The token of text outside of tags; no text is no token. -/
def ofData (content : List Char) : List Token :=
  if content.isEmpty then [] else [.data (String.ofList content)]

mutual

/-- The tokens from a place outside of tags on. -/
def outside : Nat → List Char → List Token
  | 0, _ => []
  | steps + 1, text =>
      match cutTag text with
      | (content, none) => ofData content
      | (content, some (tag, after)) =>
          let sign := (edge after).1
          ofData (before sign content) ++
            match tag with
            | .print => .printStart :: within steps .print 0 (edge after).2
            | .statement =>
                -- Inside a raw part nothing is a tag but its end.
                match bareTag? "raw".toList after with
                | some (sign, rest) =>
                    match rawPart? rest with
                    | some (raw, endSign, rest) =>
                        ofData (before endSign (behind sign raw)) ++ outside steps rest
                    | none => [.invalid .syntaxError]
                | none => .tagStart :: within steps .statement 0 (edge after).2
            | .comment =>
                match cut Tag.comment.closing (edge after).2 with
                | some (comment, rest) => outside steps (behind comment.getLast? rest)
                | none => [.invalid .syntaxError]

/-- The tokens from a place inside a tag on, with the given number of brackets open. -/
def within : Nat → Tag → Int → List Char → List Token
  | 0, _, _, _ => []
  | steps + 1, tag, depth, text =>
      let text := text.dropWhile isSpace
      -- Two closing braces end a tag only where no bracket is open.
      let ended := if depth = 0 then tagEnd? tag text else none
      match ended with
      | some rest => (if tag = .print then .printEnd else .tagEnd) :: outside steps rest
      | none =>
          match inside text with
          | (.invalid fault, _) => [.invalid fault]
          | (token, rest) => token :: within steps tag (depth + nesting token) rest

end

/-- The text without the line end at its end. -/
def dropLineEnd (text : List Char) : List Char :=
  let text := if text.getLast? = some '\n' then text.dropLast else text
  Text.dropReturn text

/-- The tokens of a template. The line end at its end does not count. Every step takes a
character, so the length of the text bounds the steps.
-/
def tokens (source : String) : List Token :=
  let text := dropLineEnd source.toList
  outside (text.length + 1) text

end Lexical

end AddonPackager.Template
