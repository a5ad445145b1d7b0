/-
# Rules for records: reading programs

Operators bind from choices and assignments, the weakest, to fields, the strongest. Two
values side by side are joined. What is printed may not hold a bare comparison by
"greater", which there leads to a file.

Key definitions: `Rule.Parse`, `Rule.expression`, `Rule.statement`, `Rule.Program.read`.
-/
import StressBench.Shell.Rule.Token

namespace StressBench
namespace Shell
namespace Rule

/-- What is still to be read: words with their lines, and the line of the last word. -/
structure Words where
  rest : List (Token × Nat)
  line : Nat := 1
  /-- Whether a bare "greater" leads to a file. -/
  printing : Bool := false
  /-- Whether `in` belongs to a loop. -/
  looping : Bool := false
  loops : Nat := 0
  /-- How many brackets are open. -/
  depth : Nat := 0
  inFunction : Bool := false
  inRecords : Bool := true
  /-- The functions that are called, with how many values and in which lines. -/
  calls : List (Text × Nat × Nat) := []

/-- Reading a program. -/
abbrev Parse (α : Type) := StateT Words (Except Fault) α

namespace Parse

/-- Refuses the program. -/
def refuse {α : Type} (message : String) : Parse α := do
  throw ⟨"line " ++ toString (← get).line ++ ": " ++ message⟩

/-- The next word, which stays. -/
def peek : Parse (Option Token) := do
  return (← get).rest.head?.map Prod.fst

/-- The next word. -/
def take : Parse (Option Token) := do
  let w ← get
  match w.rest with
  | (t, line) :: rest =>
    if t == .sign ")" && w.depth == 0 then throw ⟨"line " ++ toString line ++ ": extra ')'"⟩
    let depth := if t == .sign "(" then w.depth + 1 else if t == .sign ")" then w.depth - 1
      else w.depth
    set { w with rest, line, depth }
    return some t
  | [] => return none

/-- Takes the next word if it is the one. -/
def accept (t : Token) : Parse Bool := do
  if (← peek) == some t then
    let _ ← take
    return true
  else return false

/-- Takes a sign if it comes next. -/
def sign (s : String) : Parse Bool :=
  accept (.sign s)

/-- Refuses the next word. -/
def unexpected {α : Type} : Parse α := do
  match ← take with
  | none => refuse "syntax error at or near end of line"
  | some t => refuse ("syntax error at or near " ++ t.shown)

/-- Takes a sign that must come next. -/
def require (s : String) : Parse Unit := do
  unless ← sign s do
    match s, ← peek with
    | ")", none | ")", some .newline | ")", some (.sign _) =>
      let near := match ← peek with
        | some (.sign t) => t
        | _ => "end of line"
      refuse ("missing ) near " ++ near)
    | "\x7d", none => refuse "missing \x7d near end of file"
    | _, _ => unexpected

/-- Leaves line ends out. -/
def skipLines : Nat → Parse Unit
  | 0 => pure ()
  | n + 1 => do
    if ← accept .newline then skipLines n

/-- Leaves line ends out. -/
def lines : Parse Unit := do
  skipLines ((← get).rest.length + 1)

/-- Leaves line ends and semicolons out. -/
def skipSeparators : Nat → Parse Unit
  | 0 => pure ()
  | n + 1 => do
    if (← accept .newline) || (← sign ";") then skipSeparators n

/-- Leaves line ends and semicolons out. -/
def separators : Parse Unit := do
  skipSeparators ((← get).rest.length + 1)

end Parse

/-- Whether something can be given a value. -/
def isTarget : Expr → Bool
  | .name _ | .field _ | .item .. => true
  | _ => false

/-- The operators of assignments. -/
def assigners : List (String × Option Arith) :=
  [("=", none), ("+=", some .add), ("-=", some .subtract), ("*=", some .multiply),
    ("/=", some .divide), ("%=", some .remainder), ("^=", some .power)]

/-- The comparisons. -/
def comparisons : List (String × Comparison) :=
  [("<", .less), ("<=", .atMost), ("==", .equal), ("!=", .different), (">=", .atLeast),
    (">", .greater)]

/-- The operators of two levels of arithmetic. -/
def ariths : List (String × Arith) × List (String × Arith) :=
  ([("+", .add), ("-", .subtract)], [("*", .multiply), ("/", .divide), ("%", .remainder)])

/-- The operator that comes next, of some. -/
def operator? {α : Type} (table : List (String × α)) : Parse (Option α) := do
  match ← Parse.peek with
  | some (.sign s) =>
    match table.lookup s with
    | some a =>
      let _ ← Parse.take
      return some a
    | none => return none
  | _ => return none

/-- How many values a function is given, at least and at most. -/
def argumentCounts : Builtin → Nat × Nat
  | .rand | .time => (0, 0)
  | .length | .srand | .fflush => (0, 1)
  | .sin | .cos | .exp | .log | .sqrt | .int | .tolower | .toupper | .system | .close => (1, 1)
  | .atan2 | .index | .matchText => (2, 2)
  | .substr | .split | .sub | .gsub => (2, 3)
  | .sprintf => (1, 1000)

/-- Whether a word may begin a value that is joined to the one before. -/
def beginsOperand (looping : Bool) : Token → Bool
  | .number _ | .text _ | .regex _ | .name _ | .function _ | .builtin _ => true
  | .sign s => s == "$" || s == "!" || s == "(" || s == "-" && false || s == "++" || s == "--"
  | .keyword s => s == "getline" && !looping
  | .newline => false

mutual

/-- Reads an expression: a choice or an assignment. -/
def expression : Nat → Parse Expr
  | 0 => Parse.unexpected
  | n + 1 => do
    let e ← either n
    if ← Parse.sign "?" then
      let yes ← expression n
      Parse.lines
      Parse.require ":"
      Parse.lines
      let no ← expression n
      return .choice e yes no
    else if isTarget e then
      match ← operator? assigners with
      | some op =>
        Parse.lines
        return .assign op e (← expression n)
      | none => return e
    else return e

/-- Reads alternatives. -/
def either : Nat → Parse Expr
  | 0 => Parse.unexpected
  | n + 1 => do
    let e ← both n
    if ← Parse.sign "||" then
      Parse.lines
      return .either e (← either n)
    else return e

/-- Reads what must all hold. -/
def both : Nat → Parse Expr
  | 0 => Parse.unexpected
  | n + 1 => do
    let e ← membership n
    if ← Parse.sign "&&" then
      Parse.lines
      return .both e (← both n)
    else return e

/-- Reads a question for an array. -/
def membership : Nat → Parse Expr
  | 0 => Parse.unexpected
  | n + 1 => do
    let e ← matching n
    memberships n e

/-- Reads questions for arrays after a value. -/
def memberships : Nat → Expr → Parse Expr
  | 0, e => return e
  | n + 1, e => do
    if (← Parse.peek) == some (.keyword "in") && !(← get).looping then
      let _ ← Parse.take
      match ← Parse.take with
      | some (.name array) =>
        memberships n (.contains (match e with | .group es => es | e => [e]) array)
      | _ => Parse.unexpected
    else return e

/-- Reads a match. -/
def matching : Nat → Parse Expr
  | 0 => Parse.unexpected
  | n + 1 => do
    let e ← comparison n
    matchings n e

/-- Reads matches after a value. -/
def matchings : Nat → Expr → Parse Expr
  | 0, e => return e
  | n + 1, e => do
    match ← operator? [("~", false), ("!~", true)] with
    | some negated =>
      match ← comparison n with
      | .text s =>
        match matcherIn s with
        | .ok m => matchings n (.matching negated e (.regex m))
        | .error message => Parse.refuse message
      | pattern => matchings n (.matching negated e pattern)
    | none => return e

/-- Reads a comparison. -/
def comparison : Nat → Parse Expr
  | 0 => Parse.unexpected
  | n + 1 => do
    let e ← piped n (← joined n)
    let table := if (← get).printing then comparisons.filter (·.1 != ">") else comparisons
    match ← operator? table with
    | some op =>
      let f ← joined n
      return .compare op e (← piped n f)
    | none => return e

/-- Reads the output of commands after a value. -/
def piped : Nat → Expr → Parse Expr
  | 0, e => return e
  | n + 1, e => do
    let w ← get
    match w.rest with
    | (.sign "|", _) :: (.keyword "getline", line) :: rest =>
      set { w with rest, line }
      piped n (.getlineFrom e (← target? n))
    | _ => return e

/-- Reads the target of a record, if there is one. -/
def target? : Nat → Parse (Option Expr)
  | 0 => return none
  | n + 1 => do
    match ← Parse.peek with
    | some (.name _) | some (.sign "$") => return some (← primary n)
    | _ => return none

/-- Reads values that are joined. -/
def joined : Nat → Parse Expr
  | 0 => Parse.unexpected
  | n + 1 => do
    let e ← sum n
    joins n e

/-- Reads values that are joined to one. -/
def joins : Nat → Expr → Parse Expr
  | 0, e => return e
  | n + 1, e => do
    match ← Parse.peek with
    | some t =>
      if beginsOperand (← get).looping t && !(t == .keyword "getline") then
        joins n (.join e (← sum n))
      else return e
    | none => return e

/-- Reads a sum. -/
def sum : Nat → Parse Expr
  | 0 => Parse.unexpected
  | n + 1 => do
    let e ← product n
    sums n e

/-- Reads what is added to a value. -/
def sums : Nat → Expr → Parse Expr
  | 0, e => return e
  | n + 1, e => do
    match ← operator? ariths.1 with
    | some op => sums n (.arith op e (← product n))
    | none => return e

/-- Reads a product. -/
def product : Nat → Parse Expr
  | 0 => Parse.unexpected
  | n + 1 => do
    let e ← signed n
    products n e

/-- Reads what a value is multiplied by. -/
def products : Nat → Expr → Parse Expr
  | 0, e => return e
  | n + 1, e => do
    match ← operator? ariths.2 with
    | some op => products n (.arith op e (← signed n))
    | none => return e

/-- Reads a value with a sign in front. -/
def signed : Nat → Parse Expr
  | 0 => Parse.unexpected
  | n + 1 => do
    if ← Parse.sign "!" then return .not (← signed n)
    else if ← Parse.sign "-" then return .negate (← signed n)
    else if ← Parse.sign "+" then return .plus (← signed n)
    else powers n

/-- Reads a power. -/
def powers : Nat → Parse Expr
  | 0 => Parse.unexpected
  | n + 1 => do
    let e ← stepped n
    if ← Parse.sign "^" then return .arith .power e (← signed n) else return e

/-- Reads a value that may be made one more or less. -/
def stepped : Nat → Parse Expr
  | 0 => Parse.unexpected
  | n + 1 => do
    let steps : List (String × Bool) := [("++", true), ("--", false)]
    match ← operator? steps with
    | some up =>
      let e ← primary n
      if isTarget e then return .step true up e else Parse.unexpected
    | none =>
      let e ← primary n
      if isTarget e then
        match ← operator? steps with
        | some up => return .step false up e
        | none => return e
      else return e

/-- Reads expressions between commas up to a sign. -/
def arguments : Nat → String → Parse (List Expr)
  | 0, _ => Parse.unexpected
  | n + 1, close => do
    Parse.lines
    if ← Parse.sign close then return []
    else
      let w ← get
      set { w with printing := false, looping := false }
      let e ← expression n
      let rest ← moreArguments n close
      modify fun v => { v with printing := w.printing, looping := w.looping }
      return e :: rest

/-- Reads further expressions between commas up to a sign. -/
def moreArguments : Nat → String → Parse (List Expr)
  | 0, _ => Parse.unexpected
  | n + 1, close => do
    Parse.lines
    if ← Parse.sign "," then
      Parse.lines
      let e ← expression n
      return e :: (← moreArguments n close)
    else
      Parse.require close
      return []

/-- Reads a single value. -/
def primary : Nat → Parse Expr
  | 0 => Parse.unexpected
  | n + 1 => do
    match ← Parse.peek with
    | some (.number v) =>
      let _ ← Parse.take
      return .number v
    | some (.text s) =>
      let _ ← Parse.take
      return .text s
    | some (.regex s) =>
      let _ ← Parse.take
      match matcherIn s with
      | .ok m => return .regex m
      | .error message => Parse.refuse message
    | some (.sign "$") =>
      let _ ← Parse.take
      match ← Parse.peek with
      | some (.sign "++") | some (.sign "--") => return .field (← stepped n)
      | some (.sign "-") =>
        let _ ← Parse.take
        return .field (.negate (← primary n))
      | _ => return .field (← primary n)
    | some (.sign "(") =>
      let _ ← Parse.take
      let es ← arguments n ")"
      match es with
      | [] => Parse.unexpected
      | es => return .group es
    | some (.name s) =>
      let _ ← Parse.take
      if ← Parse.sign "[" then return .item s (← arguments n "]") else return .name s
    | some (.function s) =>
      let _ ← Parse.take
      Parse.require "("
      let args ← arguments n ")"
      modify fun w => { w with calls := (s, args.length, w.line) :: w.calls }
      return .call s args
    | some (.builtin b) =>
      let _ ← Parse.take
      if ← Parse.sign "(" then
        let args ← arguments n ")"
        let (least, most) := argumentCounts b
        if args.length < least && [Builtin.sub, .gsub, .split, .matchText].contains b then
          Parse.refuse "syntax error at or near )"
        if args.length < least || most < args.length then
          Parse.refuse ("wrong number of arguments in call to " ++ (Token.builtin b).shown)
        return .builtin b args
      else if b == .length then return .builtin b []
      else Parse.unexpected
    | some (.keyword "getline") =>
      let _ ← Parse.take
      let target ← target? n
      if ← Parse.sign "<" then return .getline target (some (← primary n))
      else return .getline target none
    | _ => Parse.unexpected

end

/-- Reads expressions between commas. -/
def expressions : Nat → Parse (List Expr)
  | 0 => Parse.unexpected
  | n + 1 => do
    let e ← expression (16 * n + 16)
    if ← Parse.sign "," then
      Parse.lines
      return e :: (← expressions n)
    else return [e]

/-- Whether a simple statement ends with what comes next. -/
def endsStatement : Parse Bool := do
  match ← Parse.peek with
  | none | some .newline | some (.sign ";") | some (.sign "\x7d") => return true
  | _ => return false

/-- Reads what is printed. -/
def printed (n : Nat) : Parse (List Expr × Option (Outlet × Expr)) := do
  let args ←
    match ← Parse.peek with
    | none | some .newline | some (.sign ";") | some (.sign "\x7d") | some (.sign ">")
    | some (.sign ">>") | some (.sign "|") => pure []
    | _ =>
      modify fun w => { w with printing := true }
      let es ← expressions n
      modify fun w => { w with printing := false }
      pure (match es with
        | [.group es] => es
        | es => es)
  match ← operator? [(">", Outlet.write), (">>", .append), ("|", .command)] with
  | some outlet =>
    modify fun w => { w with printing := true }
    let e ← expression (16 * n + 16)
    modify fun w => { w with printing := false }
    return (args, some (outlet, e))
  | none => return (args, none)

/-- Reads a simple statement. -/
def simple (n : Nat) : Parse Statement := do
  match ← Parse.peek with
  | some (.keyword "print") =>
    let _ ← Parse.take
    let (args, outlet) ← printed n
    return .print args outlet
  | some (.keyword "printf") =>
    let _ ← Parse.take
    let (args, outlet) ← printed n
    if args.isEmpty then Parse.unexpected
    return .printf args outlet
  | some (.keyword "delete") =>
    let _ ← Parse.take
    match ← Parse.take with
    | some (.name array) =>
      if ← Parse.sign "[" then return .delete array (← arguments (16 * n + 16) "]")
      else return .delete array []
    | _ => Parse.unexpected
  | _ => return .expr (← expression (16 * n + 16))

/-- Takes the end of a simple statement. -/
def statementEnd : Parse Unit := do
  if !((← Parse.sign ";") || (← Parse.accept .newline)) then
    match ← Parse.peek with
    | some (.sign "\x7d") | none => pure ()
    | _ => Parse.unexpected

/-- The loop over an array at the beginning of what is to be read, if there is one. -/
def arrayLoop? : Parse (Option (Text × Text)) := do
  let w ← get
  match w.rest with
  | (.name v, _) :: (.keyword "in", _) :: (.name array, _) :: (.sign ")", line) :: rest =>
    set { w with rest, line, depth := w.depth - 1 }
    return some (v, array)
  | _ => return none

mutual

/-- Reads a statement. -/
def statement : Nat → Parse Statement
  | 0 => Parse.unexpected
  | n + 1 => do
    let inLoop : Parse Statement := do
      Parse.lines
      modify fun w => { w with loops := w.loops + 1 }
      let body ← statement n
      modify fun w => { w with loops := w.loops - 1 }
      return body
    match ← Parse.peek with
    | some (.sign "\x7b") =>
      let _ ← Parse.take
      let body ← statements n
      let _ ← Parse.sign ";"
      return .block body
    | some (.sign ";") =>
      let _ ← Parse.take
      return .block []
    | some (.keyword "if") =>
      let _ ← Parse.take
      Parse.require "("
      let test ← expression (16 * n + 16)
      Parse.require ")"
      Parse.lines
      let yes ← statement n
      let w ← get
      Parse.separators
      if ← Parse.accept (.keyword "else") then
        Parse.lines
        return .branch test yes (some (← statement n))
      else
        set w
        return .branch test yes none
    | some (.keyword "while") =>
      let _ ← Parse.take
      Parse.require "("
      let test ← expression (16 * n + 16)
      Parse.require ")"
      if ← Parse.sign ";" then return .loop test (.block [])
      else return .loop test (← inLoop)
    | some (.keyword "do") =>
      let _ ← Parse.take
      let body ← inLoop
      Parse.separators
      unless ← Parse.accept (.keyword "while") do Parse.unexpected
      Parse.require "("
      let test ← expression (16 * n + 16)
      Parse.require ")"
      statementEnd
      return .loopAfter body test
    | some (.keyword "for") =>
      let _ ← Parse.take
      Parse.require "("
      match ← arrayLoop? with
      | some (v, array) => return .each v array (← inLoop)
      | none =>
        let start ← if (← Parse.peek) == some (.sign ";") then pure none
          else do pure (some (← simple n))
        Parse.require ";"
        Parse.lines
        let test ← if (← Parse.peek) == some (.sign ";") then pure none
          else pure (some (← expression (16 * n + 16)))
        Parse.require ";"
        Parse.lines
        let step ← if (← Parse.peek) == some (.sign ")") then pure none
          else do pure (some (← simple n))
        Parse.require ")"
        if ← Parse.sign ";" then return .count start test step (.block [])
        else return .count start test step (← inLoop)
    | some (.keyword word) =>
      let w ← get
      let bare (s : Statement) : Parse Statement := do
        let _ ← Parse.take
        statementEnd
        return s
      let valued (f : Option Expr → Statement) : Parse Statement := do
        let _ ← Parse.take
        let value ← if ← endsStatement then pure none else pure (some (← expression (16 * n + 16)))
        statementEnd
        return f value
      match word with
      | "next" =>
        if w.inFunction || !w.inRecords then Parse.refuse "improper use of next"
        bare .next
      | "nextfile" =>
        if w.inFunction || !w.inRecords then Parse.refuse "improper use of nextfile"
        bare .nextFile
      | "break" =>
        if w.loops == 0 then Parse.refuse "break statement outside of loop"
        bare .leave
      | "continue" =>
        if w.loops == 0 then Parse.refuse "continue statement outside of loop"
        bare .proceed
      | "exit" => valued .exit
      | "return" =>
        unless w.inFunction do Parse.refuse "return outside function body"
        valued .giveBack
      | _ =>
        let s ← simple n
        statementEnd
        return s
    | _ =>
      let s ← simple n
      statementEnd
      return s

/-- Reads statements up to the brace that closes a block. -/
def statements : Nat → Parse (List Statement)
  | 0 => Parse.unexpected
  | n + 1 => do
    Parse.separators
    if ← Parse.sign "\x7d" then return []
    else if (← get).rest.isEmpty then
      modify fun w => { w with line := w.line + 1 }
      Parse.refuse "missing \x7d near end of file"
    else
      let s ← statement n
      return s :: (← statements n)

end

/-- Reads the names of the arguments of a function. -/
def parameters : Nat → Parse (List Text)
  | 0 => return []
  | n + 1 => do
    Parse.lines
    if ← Parse.sign ")" then return []
    else
      match ← Parse.take with
      | some (.name s) =>
        if ← Parse.sign "," then return s :: (← parameters n)
        else
          Parse.require ")"
          return [s]
      | some t => Parse.refuse ("syntax error at or near " ++ t.shown)
      | none => Parse.unexpected

/-- Reads the action of a rule. -/
def action (n : Nat) : Parse (Option Statement) := do
  if ← Parse.sign "\x7b" then return some (.block (← statements n)) else return none

/-- Reads the rules and functions of a program. -/
def items : Nat → Program → Parse Program
  | 0, p => return p
  | n + 1, p => do
    Parse.separators
    let rule (condition : Condition) (action : Option Statement) : Program :=
      { p with rules := ⟨condition, action⟩ :: p.rules }
    let edge (condition : Condition) : Parse Program := do
      let _ ← Parse.take
      modify fun w => { w with inRecords := false }
      match ← action n with
      | some a =>
        modify fun w => { w with inRecords := true }
        items n (rule condition (some a))
      | none => Parse.unexpected
    match ← Parse.peek with
    | none => return { rules := p.rules.reverse, functions := p.functions }
    | some (.sign "\x7d") => Parse.refuse "extra '\x7d'"
    | some (.keyword "BEGIN") => edge .start
    | some (.keyword "END") => edge .finish
    | some (.keyword "function") | some (.keyword "func") =>
      let _ ← Parse.take
      let name ← match ← Parse.take with
        | some (.function s) | some (.name s) => pure s
        | _ => Parse.unexpected
      if (p.functions.lookup name).isSome then Parse.refuse ("redefinition of " ++ shown name)
      Parse.require "("
      let params ← parameters n
      for (x, i) in params.zipIdx do
        if (params.take i).contains x then
          Parse.refuse (shown x ++ " is duplicated in argument list")
      Parse.lines
      modify fun w => { w with inFunction := true }
      match ← action n with
      | some body =>
        modify fun w => { w with inFunction := false }
        items n { p with functions := (name, ⟨params, body⟩) :: p.functions }
      | none => Parse.unexpected
    | some (.sign "\x7b") => items n (rule .always (← action n))
    | some _ =>
      let first ← expression (16 * n + 16)
      if ← Parse.sign "," then
        Parse.lines
        let last ← expression (16 * n + 16)
        items n (rule (.range first last) (← action n))
      else items n (rule (.test first) (← action n))

/-- Reads a program. -/
def Program.read (s : Text) : Except Fault Program :=
  match tokensOf s with
  | .error e => .error e
  | .ok tokens =>
    match (items (2 * tokens.length + 8) {}).run { rest := tokens } with
    | .error e => .error e
    | .ok (p, w) => w.calls.reverse.forM (checked p w.line) |>.map fun _ => p
where
  /-- Refuses a call of a function that is not there or does not take so many values. -/
  checked (p : Program) (last : Nat) (c : Text × Nat × Nat) : Except Fault Unit :=
    match p.functions.lookup c.1 with
    | none => .error ⟨"line " ++ toString (last + 1) ++ ": function " ++ shown c.1 ++
        " never defined"⟩
    | some f =>
      if f.params.length < c.2.1 then
        .error ⟨"line " ++ toString c.2.2 ++ ": too many arguments in call to " ++ shown c.1⟩
      else .ok ()

end Rule
end Shell
end StressBench
