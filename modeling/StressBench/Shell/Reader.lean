/-
# Reading a script

A script is read one complete command at a time, so that a fault further down
shows only when what is before it has been run. The readers are recursive
descent with a bound on their nesting, which grows with the text and so is never
met by it.

Key definitions: `Reader.word`, `Reader.token`, `Reader.command`, `Reader.list`,
`Shell.readCommand`.
-/
import StressBench.Shell.Cursor

namespace StressBench
namespace Shell

/-- What a reader looks for before it takes a word as such: whether line ends are
passed over, and whether the words of the language and words that stand for other
text count. -/
structure Looking where
  lines : Bool := false
  keywords : Bool := false
  aliases : Bool := false

/-- What a command may begin with. -/
def Looking.atCommand (lines : Bool) : Looking := ⟨lines, true, true⟩

/-- The commands of the shell that no other command may take the name of. -/
def specialBuiltins : List String :=
  [".", ":", "break", "continue", "eval", "exec", "exit", "export", "local", "readonly", "return",
    "set", "shift", "times", "trap", "unset"]

/-- The text of a word in which nothing is quoted or replaced. -/
def plainText? : Word → Option Text
  | [.text s false] => some s
  | _ => none

/-- The name and the value of a word that gives a variable a value. -/
def assignmentOf? : Word → Option (Text × Word)
  | .text s false :: parts =>
    let name := nameAt s
    if !name.isEmpty && (s.drop name.length).head? == some '=' then
      let value := s.drop (name.length + 1)
      some (name, if value.isEmpty then parts else .text value false :: parts)
    else none
  | _ => none

/-- The two-character marks. -/
def longMarks : List String := ["&&", "||", ";;"]

/-- The mark in front. -/
def markAt? (s : Text) : Option String :=
  match longMarks.find? fun m => m.toList.isPrefixOf s with
  | some m => some m
  | none => (s.head?.filter fun c => ['&', '|', ';', '(', ')'].contains c).map Char.toString

namespace Reader

mutual

/-- The parts of a word. In braces it goes on to the closing brace, elsewhere to a
character that ends words. -/
def word : Nat → Bool → Reader Word
  | 0, _ => fail "nesting too deep"
  | n + 1, braced => do
    match ← rest with
    | [] => if braced then failAtEnd "Missing '\x7d'" else return []
    | '\'' :: s =>
      let quoted := s.takeWhile (· != '\'')
      if quoted.length == s.length then failAtEnd "Unterminated quoted string"
      let _ ← take (quoted.length + 2)
      return .text quoted true :: (← word n braced)
    | '"' :: _ =>
      let _ ← take 1
      let parts ← quoted n (some '"')
      return (if parts.isEmpty then [.text [] true] else parts) ++ (← word n braced)
    | '\\' :: '\n' :: _ =>
      let _ ← take 2
      word n braced
    | '\\' :: c :: _ =>
      let _ ← take 2
      return .text [c] true :: (← word n braced)
    | '\\' :: [] =>
      let _ ← take 1
      return [.text ['\\'] true]
    | '$' :: _ =>
      let part ← expansion n false
      return part :: (← word n braced)
    | c :: _ =>
      if isBackquote c then
        let part ← substitution n false
        return part :: (← word n braced)
      else if braced then
        if c == '}' then
          let _ ← take 1
          return []
        else
          let plain ← takeWhile fun c => (isPlain c || endsWord c) && c != '}'
          return .text plain false :: (← word n braced)
      else if endsWord c then return []
      else
        let plain ← takeWhile isPlain
        return .text plain false :: (← word n braced)

/-- The parts up to a closing character, or to the end of the text if there is
none. Only expansions and backslashes count. -/
def quoted : Nat → Option Char → Reader Word
  | 0, _ => fail "nesting too deep"
  | n + 1, closing => do
    match ← rest with
    | [] =>
      match closing with
      | none => return []
      | some '}' => failAtEnd "Missing '\x7d'"
      | some _ => failAtEnd "Unterminated quoted string"
    | c :: s =>
      if some c == closing then
        let _ ← take 1
        return []
      else if c == '\\' then
        let _ ← take 2
        match s with
        | '\n' :: _ => quoted n closing
        | x :: _ =>
          let kept := x == '$' || x == '\\' || isBackquote x || (x == '"' && closing.isSome) ||
            (x == '}' && closing == some '}')
          return .text (if kept then [x] else [c, x]) true :: (← quoted n closing)
        | [] => return [.text [c] true]
      else if c == '$' then
        let part ← expansion n true
        return part :: (← quoted n closing)
      else if isBackquote c then
        let part ← substitution n true
        return part :: (← quoted n closing)
      else if c == '"' && closing == some '}' then
        let _ ← take 1
        let parts ← quoted n (some '"')
        return (if parts.isEmpty then [.text [] true] else parts) ++ (← quoted n closing)
      else
        let plain ← takeWhile fun c =>
          c != '$' && c != '\\' && !isBackquote c && some c != closing &&
            !(c == '"' && closing == some '}')
        return .text plain true :: (← quoted n closing)

/-- The expansion that a dollar sign begins, or the sign itself. -/
def expansion : Nat → Bool → Reader Part
  | 0, _ => fail "nesting too deep"
  | n + 1, inQuotes => do
    let _ ← take 1
    match ← rest with
    | '(' :: '(' :: s =>
      match expressionLength 0 0 s with
      | none => failAtEnd "Missing '))'"
      | some k =>
        let _ ← take 2
        let text ← take k
        let _ ← take 2
        let after ← get
        set { after with rest := text }
        let parts ← quoted n none
        set after
        return .arithmetic parts inQuotes
    | '(' :: _ =>
      let _ ← take 1
      let body ← list n true false
      expect n (.mark ")")
      return .output (.sequence body) inQuotes
    | '{' :: '#' :: s =>
      match Parameter.at? true s with
      | some (p, k) =>
        if (s.drop k).head? == some '}' then
          let _ ← take (k + 3)
          return .parameter p .size [] inQuotes
        else if (s.head?.map inName).getD false then
          let _ ← take (k + 2)
          let _ ← if inQuotes then quoted n (some '}') else word n true
          return .parameter p .unknown [] inQuotes
        else
          let _ ← take 2
          braced n .count inQuotes
      | none =>
        let _ ← take 2
        braced n .count inQuotes
    | '{' :: s =>
      match Parameter.at? true s with
      | none =>
        let _ ← take 1
        let _ ← if inQuotes then quoted n (some '}') else word n true
        return .parameter .count .unknown [] inQuotes
      | some (p, k) =>
        let _ ← take (k + 1)
        braced n p inQuotes
    | s =>
      match Parameter.at? false s with
      | some (p, k) =>
        let _ ← take k
        return .parameter p .value [] inQuotes
      | none => return .text ['$'] inQuotes

/-- What comes after a parameter in braces, up to the closing brace. -/
def braced : Nat → Parameter → Bool → Reader Part
  | 0, _, _ => fail "nesting too deep"
  | n + 1, p, inQuotes => do
    let (use, k) := Use.at (← rest)
    let _ ← take k
    let parts ← if inQuotes && !use.isTrim then quoted n (some '}') else word n true
    return .parameter p use parts inQuotes

/-- The command between backquotes. -/
def substitution : Nat → Bool → Reader Part
  | 0, _ => fail "nesting too deep"
  | n + 1, inQuotes => do
    match backquoted inQuotes [] 0 ((← rest).drop 1) with
    | none => failAtEnd "EOF in backquote substitution"
    | some (text, k) =>
      let _ ← take (k + 1)
      let after ← get
      set { after with rest := text, line := 1 }
      let body ← list n true false
      set after
      return .output (.sequence body) inQuotes

/-- What comes next. -/
def token : Nat → Looking → Reader Token
  | 0, _ => fail "nesting too deep"
  | n + 1, look => do
    let t ←
      match (← get).held with
      | some t => do
        modify fun c => { c with held := none }
        pure t
      | none => freshToken n
    match t with
    | .newline => if look.lines then token n look else return t
    | .word _ (some plain) =>
      if look.keywords && keywords.contains (String.ofList plain) then
        return .keyword (String.ofList plain)
      let c ← get
      let busy := c.busy.filter fun b => b.2 < c.rest.length
      match c.aliases.lookup plain, look.aliases && !(busy.map Prod.fst).contains plain with
      | some text, true =>
        set { c with rest := text ++ c.rest, busy := (plain, c.rest.length) :: busy }
        token n look
      | _, _ => return t
    | t => return t

/-- What comes next in the text. -/
def freshToken : Nat → Reader Token
  | 0 => fail "nesting too deep"
  | n + 1 => do
    blanks
    let s ← rest
    match s with
    | [] => return .endOfText
    | '\n' :: _ =>
      let _ ← take 1
      modify fun c => { c with line := c.line + c.skipped, skipped := 0 }
      return .newline
    | _ =>
      match redirectAt? s, markAt? s with
      | some (stream, mode, k), _ =>
        let _ ← take k
        return .redirect stream mode
      | none, some m =>
        let _ ← take m.length
        return .mark m
      | none, none =>
        let parts ← word n false
        return .word parts (plainText? parts)

/-- Takes a token that must come next. -/
def expect : Nat → Token → Reader Unit
  | 0, _ => fail "nesting too deep"
  | n + 1, wanted => do
    let t ← token n {}
    let found :=
      match wanted with
      | .mark m => t.isMark m
      | .keyword w => t.isKeyword w
      | _ => false
    unless found do unexpected t (some wanted)

/-- The rest of a redirection. -/
def redirect : Nat → Nat → OpenMode → Reader (Redirect Word)
  | 0, _, _ => fail "nesting too deep"
  | n + 1, stream, mode => do
    if mode == .document then
      return ⟨stream, mode, ← document n⟩
    else
      match ← token n {} with
      | .word parts _ => return ⟨stream, mode, parts⟩
      | t => unexpected t none

/-- The lines below up to one that consists of the word in front, which are taken
out of the text. Expansions in them count unless the word has quotes. -/
def document : Nat → Reader Word
  | 0 => fail "nesting too deep"
  | n + 1 => do
    let tabs := (← rest).head? == some '-'
    if tabs then discard (take 1)
    blanks
    match markWord ((← rest).length + 1) (← rest) with
    | ([], 0) => unexpected (← token n {}) none
    | (mark, k) =>
      let isQuoted := mark.length != k
      let _ ← take k
      let after ← get
      let here := after.rest.takeWhile (· != '\n')
      let (body, count, below) := linesBefore tabs mark [] 0 (after.rest.drop (here.length + 1))
      let line := after.line + after.skipped + 1
      let parts ←
        if isQuoted then pure [.text body true]
        else do
          set { after with rest := body, line }
          quoted n none
      set { after with rest := here ++ '\n' :: below, skipped := after.skipped + count }
      return parts
where
  /-- The word in front without its quotes, and how many characters it takes. -/
  markWord : Nat → Text → Text × Nat
    | 0, _ | _, [] => ([], 0)
    | n + 1, '\\' :: c :: s =>
      let (t, k) := markWord n s
      (c :: t, k + 2)
    | n + 1, c :: s =>
      if c == '\'' || c == '"' then
        let inside := s.takeWhile (· != c)
        let (t, k) := markWord n (s.drop (inside.length + 1))
        (inside ++ t, inside.length + 2 + k)
      else if endsWord c then ([], 0)
      else
        let (t, k) := markWord n s
        (c :: t, k + 1)

/-- The rest of a simple command, given what has been read of it. -/
def simple : Nat → Nat → List (Text × Word) → List Word → List (Redirect Word) → Reader Command
  | 0, _, _, _, _ => fail "nesting too deep"
  | n + 1, line, assignments, words, targets => do
    let t ← token n { aliases := words.isEmpty }
    match t with
    | .word parts plain =>
      match assignmentOf? parts, words with
      | some a, [] => simple n line (a :: assignments) words targets
      | _, _ =>
        let first := words.isEmpty && assignments.isEmpty && targets.isEmpty
        let next ← token n {}
        if first && next.isMark "(" then
          expect n (.mark ")")
          let name := plain.getD []
          if !isName name || specialBuiltins.contains (String.ofList name) then
            fail "Bad function name"
          let line := (← get).line
          return .definition line name (← command n true)
        putBack next
        simple n line assignments (parts :: words) targets
    | .redirect stream mode =>
      let target ← redirect n stream mode
      simple n line assignments words (target :: targets)
    | t =>
      putBack t
      return .simple line assignments.reverse words.reverse targets.reverse

/-- What comes after the test of a branch. -/
def branches : Nat → Reader Command
  | 0 => fail "nesting too deep"
  | n + 1 => do
    let test ← list n false false
    expect n (.keyword "then")
    let yes ← list n false false
    let t ← token n {}
    if t.isKeyword "elif" then
      return .branch (.sequence test) (.sequence yes) (← branches n)
    else if t.isKeyword "else" then
      let no ← list n false false
      expect n (.keyword "fi")
      return .branch (.sequence test) (.sequence yes) (.sequence no)
    else
      putBack t
      expect n (.keyword "fi")
      return .branch (.sequence test) (.sequence yes) .nothing

/-- Words up to the end of the line or a semicolon. -/
def words : Nat → Reader (List Word)
  | 0 => fail "nesting too deep"
  | n + 1 => do
    match ← token n {} with
    | .word parts _ => return parts :: (← words n)
    | .newline => return []
    | t => if t.isMark ";" then return [] else unexpected t none

/-- The patterns of an arm, up to the bracket, given the token they begin with. -/
def patterns : Nat → Token → Reader (List Word)
  | 0, _ => fail "nesting too deep"
  | n + 1, t => do
    let parts : Word :=
      match t with
      | .word parts _ => parts
      | .keyword w => [.text w.toList false]
      | _ => []
    let next ← token n {}
    if next.isMark "|" then
      let t ← token n {}
      return parts :: (← patterns n t)
    else if next.isMark ")" then return [parts]
    else unexpected next (some (.mark ")"))

/-- The arms of a choice. -/
def arms : Nat → Reader (List (List Word × Command))
  | 0 => fail "nesting too deep"
  | n + 1 => do
    let t ← token n ⟨true, true, false⟩
    if t.isKeyword "esac" then return []
    let t ← if t.isMark "(" then token n {} else pure t
    let heads ← patterns n t
    let body ← list n true false
    let t ← token n ⟨true, true, false⟩
    if t.isKeyword "esac" then return [(heads, .sequence body)]
    else if t.isMark ";;" then return (heads, .sequence body) :: (← arms n)
    else unexpected t (some (.mark ";;"))

/-- The redirections behind a command that is closed. -/
def redirects : Nat → Reader (List (Redirect Word))
  | 0 => fail "nesting too deep"
  | n + 1 => do
    match ← token n ⟨false, true, true⟩ with
    | .redirect stream mode =>
      let target ← redirect n stream mode
      return target :: (← redirects n)
    | t =>
      putBack t
      return []

/-- The turns of a loop over words. -/
def turns : Nat → Nat → Reader Command
  | 0, _ => fail "nesting too deep"
  | n + 1, line => do
    match ← token n {} with
    | .word _ (some name) =>
      if !isName name then fail "Bad for loop variable"
      let t ← token n ⟨true, true, true⟩
      let fields ←
        if t.isKeyword "in" then words n
        else do
          unless t.isMark ";" do putBack t
          pure [[.parameter .separate .value [] true]]
      let t ← token n ⟨true, true, true⟩
      unless t.isKeyword "do" do unexpected t (some (.keyword "do"))
      let body ← list n false false
      expect n (.keyword "done")
      return .each line name fields (.sequence body)
    | _ => fail "Bad for loop variable"

/-- The rest of a command that is closed by a word or bracket, if the token begins one. -/
def compound : Nat → Nat → Token → Reader (Option Command)
  | 0, _, _ => fail "nesting too deep"
  | n + 1, line, t => do
    match t with
    | .mark "(" =>
      let body ← list n false false
      expect n (.mark ")")
      return some (.subshell (.sequence body))
    | .keyword "\x7b" =>
      let body ← list n false false
      expect n (.keyword "\x7d")
      return some (.sequence body)
    | .keyword "if" => return some (← branches n)
    | .keyword "for" => return some (← turns n line)
    | .keyword "case" =>
      match ← token n {} with
      | .word subject _ =>
        let t ← token n ⟨true, true, true⟩
        unless t.isKeyword "in" do unexpected t (some (.keyword "in"))
        return some (.choice line subject (← arms n))
      | t => unexpected t (some (.word [] none))
    | .keyword w =>
      if w == "while" || w == "until" then
        let test ← list n false false
        expect n (.keyword "do")
        let body ← list n false false
        expect n (.keyword "done")
        return some (.loop (w == "while") (.sequence test) (.sequence body))
      else return none
    | _ => return none

/-- One command, with its redirections. -/
def command : Nat → Bool → Reader Command
  | 0, _ => fail "nesting too deep"
  | n + 1, skip => do
    let t ← token n (.atCommand skip)
    let line := (← get).line
    match t with
    | .word .. | .redirect .. =>
      putBack t
      simple n line [] [] []
    | _ =>
      match ← compound n line t with
      | none => unexpected t none
      | some c =>
        match ← redirects n with
        | [] => return c
        | targets => return .redirected line c targets

/-- Commands that are joined by `|`. -/
def stages : Nat → Bool → Reader (List Command)
  | 0, _ => fail "nesting too deep"
  | n + 1, skip => do
    let first ← command n skip
    let t ← token n {}
    if t.isMark "|" then return first :: (← stages n true)
    else
      putBack t
      return [first]

/-- A pipeline, perhaps with its outcome turned round. -/
def pipeline : Nat → Bool → Reader Command
  | 0, _ => fail "nesting too deep"
  | n + 1, skip => do
    let t ← token n (.atCommand skip)
    let negated := t.isKeyword "!"
    unless negated do putBack t
    let c ←
      match ← stages n false with
      | [c] => pure c
      | cs => pure (.pipeline cs)
    return if negated then .negation c else c

/-- Pipelines that are joined by `&&` and `||`, given the first of them. -/
def chain : Nat → Command → Reader Command
  | 0, _ => fail "nesting too deep"
  | n + 1, first => do
    let t ← token n {}
    if t.isMark "&&" then chain n (.both first (← pipeline n true))
    else if t.isMark "||" then chain n (.either first (← pipeline n true))
    else
      putBack t
      return first

/-- Commands one after the other, up to a token that ends a list, or up to the end
of the line. There must be one unless the list may be empty. -/
def list : Nat → Bool → Bool → Reader (List Command)
  | 0, _, _ => fail "nesting too deep"
  | n + 1, mayBeEmpty, oneLine => do
    let t ← token n (.atCommand (!oneLine))
    match t with
    | .newline => return []
    | .endOfText =>
      putBack t
      return []
    | _ =>
      putBack t
      if mayBeEmpty && t.endsList then
        if oneLine then unexpected t none else return []
      let first ← chain n (← pipeline n false)
      let t ← token n {}
      match t with
      | .mark "&" => return .background first :: (← list n true oneLine)
      | .mark ";" => return first :: (← list n true oneLine)
      | .newline =>
        putBack t
        return first :: (← list n true oneLine)
      | .endOfText =>
        putBack t
        return [first]
      | t =>
        if oneLine then unexpected t none
        else
          putBack t
          return [first]

end

end Reader

/-! ### Scripts -/

/-- A bound on the nesting of the readers in a text. -/
def nestingBound (s : Text) : Nat :=
  32 * (s.length + 8)

/-- The next complete command of a script, which ends at a line end, and what is
left after it; none at the end of the script. -/
def readCommand (c : Cursor) : Except Fault (Option (Command × Cursor)) :=
  if c.rest.isEmpty then .ok none
  else
    match (Reader.list (nestingBound c.rest) false true).run { c with held := none } with
    | .error e => .error e
    | .ok (cs, after) => .ok (some (.sequence cs, after))

end Shell
end StressBench
