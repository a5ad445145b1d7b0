/-
# Rules for records: words of a program

A program is read word by word. A slash begins a regular expression where a value may
begin, and is a division elsewhere.

Key definitions: `Rule.Token`, `Rule.tokensOf`.
-/
import StressBench.Shell.Rule.Basic
import StressBench.Shell.Tool.Numeral

namespace StressBench
namespace Shell
namespace Rule

/-- A word of a program. -/
inductive Token
  | number (v : Rat)
  | text (s : Text)
  | regex (s : Text)
  | name (s : Text)
  /-- A name with a bracket just behind it. -/
  | function (s : Text)
  | keyword (s : String)
  | builtin (b : Builtin)
  | sign (s : String)
  | newline
  deriving DecidableEq, Repr

/-- The words that are not names. -/
def keywords : List String :=
  ["BEGIN", "END", "function", "func", "if", "else", "while", "for", "do", "break", "continue",
    "next", "nextfile", "exit", "return", "delete", "in", "getline", "print", "printf"]

/-- The functions that are there from the beginning, by their names. -/
def builtins : List (String × Builtin) :=
  [("length", .length), ("substr", .substr), ("index", .index), ("split", .split), ("sub", .sub),
    ("gsub", .gsub), ("match", .matchText), ("sprintf", .sprintf), ("sin", .sin), ("cos", .cos),
    ("atan2", .atan2), ("exp", .exp), ("log", .log), ("sqrt", .sqrt), ("int", .int),
    ("rand", .rand), ("srand", .srand), ("tolower", .tolower), ("toupper", .toupper),
    ("system", .system), ("close", .close), ("fflush", .fflush), ("systime", .time)]

/-- The signs, longer ones first. -/
def signs : List String :=
  ["&&", "||", "==", "<=", ">=", "!=", "++", "--", "+=", "-=", "*=", "/=", "%=", "^=", "!~", ">>",
    "\x7b", "\x7d", "(", ")", "[", "]", ";", ",", "+", "-", "*", "/", "%", "^", "!", ">", "<", "|",
    "?", ":", "~", "$", "="]

/-- Whether a value has just ended, so that a slash is a division. -/
def Token.endsValue : Token → Bool
  | .number _ | .text _ | .regex _ | .name _ | .builtin _ => true
  | .sign s => s == ")" || s == "]" || s == "$" || s == "++" || s == "--"
  | _ => false

/-- The text of a word as a complaint shows it. -/
def Token.shown : Token → String
  | .number v => toString v
  | .text s => "\"" ++ Shell.shown s ++ "\""
  | .regex s => "/" ++ Shell.shown s ++ "/"
  | .name s | .function s => Shell.shown s
  | .keyword s | .sign s => s
  | .builtin b => ((builtins.find? fun p => p.2 == b).map Prod.fst).getD ""
  | .newline => "end of line"

/-- The characters that a character after a backslash stands for with what comes after it,
latest first, and what is left. Where there is no escape the backslash stays. -/
def escapeOf (x : Char) (s : Text) : Text × Text :=
  let digits := ((x :: s).take 3).takeWhile fun c => (Arithmetic.digitValue? 8 c).isSome
  if !digits.isEmpty then
    let value := digits.foldl (fun v d => v * 8 + (Arithmetic.digitValue? 8 d).getD 0) 0
    ([Char.ofNat (value % 256)], (x :: s).drop digits.length)
  else
    match x with
    | '"' | '\\' => ([x], s)
    | 'b' => ([Char.ofNat 8], s)
    | x =>
      match Regex.controlChar? x with
      | some y => ([y], s)
      | none => ([x, '\\'], s)

/-- The characters of a text in quotes, whose escapes are replaced. Nothing if it is not
closed in its line. -/
def quotedAt : Nat → Text → Text → Option (Text × Text)
  | 0, _, _ | _, _, [] => none
  | n + 1, done, c :: s =>
    match c, s with
    | '"', s => some (done.reverse, s)
    | '\n', _ => none
    | '\\', '\n' :: s => quotedAt n done s
    | '\\', x :: s =>
      let (cs, rest) := escapeOf x s
      quotedAt n (cs ++ done) rest
    | c, s => quotedAt n (c :: done) s

/-- The regular expression up to the slash that closes it. -/
def regexAt : Nat → Text → Bool → Text → Option (Text × Text)
  | 0, _, _, _ | _, _, _, [] => none
  | n + 1, done, inSet, c :: s =>
    match c, s with
    | '\n', _ => none
    | '\\', '/' :: s => regexAt n ('/' :: done) inSet s
    | '\\', x :: s => regexAt n (x :: '\\' :: done) inSet s
    | '[', ']' :: s => regexAt n (']' :: '[' :: done) (!inSet) s
    | '[', '^' :: ']' :: s => regexAt n (']' :: '^' :: '[' :: done) true s
    | '[', s => regexAt n ('[' :: done) true s
    | ']', s => regexAt n (']' :: done) false s
    | '/', s => if inSet then regexAt n ('/' :: done) inSet s else some (done.reverse, s)
    | c, s => regexAt n (c :: done) inSet s

/-- The words of a program with their lines. `last` is the word before, and `done` holds the words
so far, latest first. -/
def tokensFrom : Nat → Nat → Option Token → List (Token × Nat) → Text →
    Except Fault (List (Token × Nat))
  | 0, _, _, done, _ | _, _, _, done, [] => .ok done.reverse
  | n + 1, line, last, done, c :: s =>
    let go (t : Token) (rest : Text) := tokensFrom n line (some t) ((t, line) :: done) rest
    let runaway (what : String) :=
      let text := (s.takeWhile (· != '\n')).take 10
      .error ⟨"line " ++ toString line ++ ": runaway " ++ what ++ " " ++ Shell.shown (c :: text) ++
        " ..."⟩
    match c, s with
    | '\n', s => tokensFrom n (line + 1) (some .newline) ((.newline, line) :: done) s
    | '\\', '\n' :: s => tokensFrom n (line + 1) last done s
    | '\\', '\r' :: '\n' :: s => tokensFrom n (line + 1) last done s
    | '#', s => tokensFrom n line last done (s.dropWhile (· != '\n'))
    | '"', s =>
      match quotedAt (s.length + 1) [] s with
      | some (text, rest) => go (.text text) rest
      | none => runaway "string constant"
    | c, s =>
      if c == ' ' || c == '\t' || c == '\r' then tokensFrom n line last done s
      else if c.isDigit || (c == '.' && (s.head?.map Char.isDigit).getD false) then
        match Scientific.readAt? (c :: s) with
        | some (v, _, rest) => go (.number v) rest
        | none => .ok done.reverse
      else if c.isAlpha || c == '_' then
        let word := (c :: s).takeWhile fun c => c.isAlphanum || c == '_'
        let rest := (c :: s).drop word.length
        let spelled := String.ofList word
        if keywords.contains spelled then go (.keyword spelled) rest
        else
          match builtins.lookup spelled with
          | some b => go (.builtin b) rest
          | none => if rest.head? == some '(' then go (.function word) rest
              else go (.name word) rest
      else if c == '/' && !((last.map Token.endsValue).getD false) then
        match regexAt (s.length + 1) [] false s with
        | some (text, rest) => go (.regex text) rest
        | none => runaway "regular expression"
      else
        match signs.find? fun t => t.toList.isPrefixOf (c :: s) with
        | some t => go (.sign t) ((c :: s).drop t.length)
        | none =>
          .error ⟨toString line ++ ": unexpected character '" ++ c.toString ++ "'"⟩

/-- The words of a program with their lines. -/
def tokensOf (s : Text) : Except Fault (List (Token × Nat)) :=
  tokensFrom (s.length + 1) 1 none [] s

end Rule
end Shell
end StressBench
