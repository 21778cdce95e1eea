import DecisionCenter.Py.Regex

/-!
# Error details of the service catalogue

`_sanitize_detail` (`admin/services_catalog.py`) redacts an error text before it is shown or
stored: the user-info of URLs, values that follow a credential keyword, and long opaque tokens.
What is left is cut to 200 characters.

The three patterns are `Regex` values that follow the source's character by character, and
`redact` applies them in the source's order, `_KV_LEAK` with a replacement that keeps the
keyword. The order matters: a token behind a keyword is redacted as the value of the keyword and
not once more as an opaque token, and line breaks are made blanks only after all three, so that
`\s` in a pattern has still seen them.

The replacement of the host name, which the source takes from the settings of the service, is
left out: it is a plain replacement of one text by another, and whether it happens depends on
nothing that is modelled here. The report of the connectors is the only user of this module.
-/

namespace DecisionCenter.Admin

open Py

/-- A punctuation character or a text without letters. -/
def exactly (s : String) : Regex :=
  s.toList.foldr (fun c r => .seq (.one (.set (· == c))) r) .empty

/-- What the user-info of a URL is made of: `[^/\s@]` -/
def userChar (c : Char) : Bool := c != '/' && !isSpace c && c != '@'

/-- `://[^/\s@]+@` -/
def userInfo : Regex := .sequence [exactly "://", .atLeast 1 (.set userChar), exactly "@"]

/-- The first group of `_KV_LEAK`. -/
def keyword : Regex :=
  .anyOf [.word "password", .word "token",
    .sequence [.word "api", .opt (.one (.set fun c => c == '_' || c == '-')), .word "key"],
    .word "secret", .word "bearer", .word "credential"]

def separator (c : Char) : Bool := c == ':' || c == '='

/-- A credential keyword with its separator: `(…)\s*[:=]\s*` -/
def keywordHead : List Regex :=
  [keyword, .atLeast 0 .space, .one (.set separator), .atLeast 0 .space]

/-- `_KV_LEAK` -/
def kvLeak : Regex := .sequence (keywordHead ++ [.atLeast 1 (.set fun c => !isSpace c)])

/-- `[A-Za-z0-9_+/=]` -/
def opaqueChar (c : Char) : Bool :=
  ('A' ≤ c && c ≤ 'Z') || ('a' ≤ c && c ≤ 'z') || ('0' ≤ c && c ≤ '9') ||
    c == '_' || c == '+' || c == '/' || c == '='

/-- `_LONG_OPAQUE` -/
def longOpaque : Regex := .atLeast 20 (.set opaqueChar)

def redacted : List Char := "<redacted>".toList

/-- What the first group of `_KV_LEAK` has matched. -/
def keywordOf (w : List Char) : List Char :=
  match (keyword.rests false w).head? with
  | some rest => w.take (w.length - rest.length)
  | none => []

/-- `text.strip()` -/
def stripSpace (cs : List Char) : List Char :=
  ((cs.dropWhile isSpace).reverse.dropWhile isSpace).reverse

/-- The three substitutions, and blanks for line breaks. -/
def redact (cs : List Char) : List Char :=
  let cs := userInfo.sub (fun _ => "://".toList) (stripSpace cs)
  let cs := kvLeak.sub (fun w => keywordOf w ++ '=' :: redacted) cs
  let cs := longOpaque.sub (fun _ => redacted) cs
  cs.map fun c => if c = '\n' ∨ c = '\r' then ' ' else c

def cut (cs : List Char) : List Char := if 200 < cs.length then cs.take 197 ++ "...".toList else cs

/-- `_sanitize_detail`; the replacement of the host name by itself is left out. -/
def sanitizeDetail (text : Option String) : String :=
  match text with
  | none => ""
  | some text => if text = "" then "" else String.ofList (cut (redact text.toList))

example : sanitizeDetail (some " postgres://app:pw@db, Bearer: abc ") =
    "postgres://db, Bearer=<redacted>" := by
  decide +kernel

end DecisionCenter.Admin
