/-
# Rules for records: runs

Expressions are evaluated and statements carried out from left to right. A function has its
own values for the names of its arguments; an array that it is given stays the same array.
The rules are tried for each record in turn, those for the beginning and the end before the
first and after the last.

Key definitions: `Rule.World`, `Rule.Spot`, `Rule.eval`, `Rule.execute`, `Rule.fits`,
`Rule.runProgram`, `Rule.run`.
-/
import StressBench.Shell.Rule.Reader
import StressBench.Shell.Rule.State

namespace StressBench
namespace Shell
namespace Rule

/-- What a run is given. -/
structure World where
  runner : Runner
  program : Program

/-- A place that can be given a value. -/
inductive Spot
  | name (x : Text)
  | field (i : Nat)
  | item (id : Nat) (k : Key)

/-- How many statements take little time. -/
def briefTurns : Nat := 2000000

/-- Lets the time of a statement pass. -/
def tick : Run Unit := do
  let turns := (← get).turns
  modify fun s => { s with turns := turns + 1 }
  lift (Action.spend (if turns < briefTurns then 100 else 20000))

/-- Repeats something as long as it says so. -/
def repeatWhile : Nat → Run Bool → Run Unit
  | 0, _ => pure ()
  | n + 1, turn => do
    if ← turn then repeatWhile n turn

/-- Does something for each of some texts as long as it says so. -/
def eachText (ks : List Text) (turn : Text → Run Bool) : Run Unit :=
  match ks with
  | [] => pure ()
  | k :: ks => do
    if ← turn k then eachText ks turn

/-- A turn of a loop. Says whether the loop goes on. -/
def loopTurn (body : Run Unit) : Run Bool := do
  try
    body
    return true
  catch e =>
    match e with
    | .leave => return false
    | .proceed => return true
    | e => throw e

/-! ### Values of places -/

/-- The value of a name. -/
def valueOfName (x : Text) : Run Value := do
  if x == "NF".toList then return .ofInt (← fieldsOf).size
  else
    match ← slot? x with
    | some (.value v) => return v
    | some (.array _) => throw (.fatal ("line 1: illegal reference to array " ++ shown x))
    | _ => return .nothing

/-- Whether a name stands for an array. -/
def isArray (x : Text) : Run Bool := do
  match ← slot? x with
  | some (.array _) => return true
  | _ => return false

/-- The value at a place. -/
def Spot.read : Spot → Run Value
  | .name x => valueOfName x
  | .field i => Rule.field i
  | .item id k => do
    let (v, items) := (← itemsOf id).find k true
    setItems id items
    return v.getD .nothing

/-- Gives a place a value. -/
def Spot.put (v : Value) : Spot → Run Unit
  | .name x => do
    if x == "NF".toList then setFieldCount v
    else if ← isArray x then throw (.fatal ("line 1: illegal reference to array " ++ shown x))
    else setSlot x (.value v)
  | .field i => putField i v
  | .item id k => do
    let items ← itemsOf id
    setItems id {}
    setItems id (items.put k v)

/-- The result of an operation. -/
def Arith.apply (op : Arith) (a b : Number) : Number :=
  match op with
  | .add => a.add b
  | .subtract => a.subtract b
  | .multiply => a.multiply b
  | .divide => a.divide b
  | .remainder => a.remainder b
  | .power => a.power b

/-- The key of subscripts. -/
def keyOf (vs : List Value) : Run Key := do
  match vs with
  | [v] => return v.toKey (← numberFormat)
  | vs => do
    let format ← numberFormat
    return .text ((← textIn "SUBSEP").intercalate (vs.map (Value.toText format)))

/-! ### Functions that are there from the beginning -/

/-- Part of a text: from a place on, so many characters. -/
def part (s : Text) (start : Int) (length : Option Int) : Text :=
  if (s.length : Int) < start then []
  else
    let length := length.map fun n => if start < 0 then n - start else n
    let rest := s.drop ((max start 1) - 1).toNat
    match length with
    | none => rest
    | some n => rest.take n.toNat

/-- The place of a text in another; 0 if it is not there. -/
def indexIn (word : Text) : Nat → Text → Nat
  | i, [] => if word.isEmpty then i else 0
  | i, c :: s => if word.isPrefixOf (c :: s) then i else indexIn word (i + 1) s

/-- A number of the machine that chance brings, and what the next comes from. -/
def chance (random : Nat) : Number × Nat :=
  let next := (random * 1103515245 + 12345) % (1 <<< 31)
  (.ofRat ((next : Rat) / ((1 <<< 31 : Nat) : Rat)), next)

/-- The value of a function that takes numbers. -/
def numberFunction? (b : Builtin) (vs : List Value) : Option Number :=
  let x := (vs.headD .nothing).toNumber
  match b with
  | .sin => some (x.viaFloat Float.sin)
  | .cos => some (x.viaFloat Float.cos)
  | .atan2 =>
    let y := ((vs.drop 1).headD .nothing).toNumber
    some (.ofFloat (Float.atan2 x.toFloat y.toFloat))
  | .exp => some (x.viaFloat Float.exp)
  | .log => some (x.viaFloat Float.log)
  | .sqrt => some (x.viaFloat Float.sqrt)
  | .int => some x.truncate
  | _ => none

/-- Does something with the text of values in a format, and gives up if something is wrong
with it. -/
def withFormatted {α : Type} (name : String) (vs : List Value) (act : Text → Run α) : Run α := do
  let format ← textOf (vs.headD .nothing)
  let numbers ← numberFormat
  let (text, fault) := formatted (numberText numbers) format (vs.drop 1)
  let a ← act text
  match fault with
  | none => return a
  | some e => faultAt (Action.encoded (e.message ++ name ++ "(\"") ++ format ++ ['"', ')'])

/-- The value of a function that takes values. -/
def plainFunction (w : World) (b : Builtin) (vs : List Value) : Run Value := do
  let second := (vs.drop 1).headD .nothing
  match numberFunction? b vs with
  | some v => return .number v
  | none =>
    let s ← textOf (vs.headD .nothing)
    match b with
    | .length => do
      let s ← if vs.isEmpty then recordOf else pure s
      return .ofInt s.length
    | .substr =>
      let length := ((vs.drop 2).head?.map fun v => toWord v.toNumber)
      return .text (part s (toWord second.toNumber) length)
    | .index => return .ofInt (indexIn (← textOf second) 1 s)
    | .sprintf => withFormatted "sprintf" vs fun s => return .text s
    | .tolower => return .text (s.map Char.toLower)
    | .toupper => return .text (s.map Char.toUpper)
    | .rand =>
      let (v, random) := chance (← get).random
      modify fun st => { st with random }
      return .number v
    | .srand =>
      let before := (← get).seed
      let seed := match vs with
        | v :: _ => v.toNumber
        | [] => .finite 1
      modify fun st => { st with seed, random := (toWord seed).natAbs }
      return .number before
    | .system =>
      flushAll
      let args := [['-', 'c'], s]
      match ← lift (withOwnStreams id (w.runner.start "/bin/sh".toList args)) with
      | .ok ending => return .ofInt (endingValue ending)
      | .error _ => return .ofInt 127
    | .close => return .ofInt (← close s)
    | .fflush =>
      flushAll
      return .ofInt 0
    | .time => return .ofInt ((← lift Action.own).clock / Duration.perSecond : Nat)
    | _ => return .nothing

/-! ### Expressions and statements -/

/-- The text that is printed for a value. -/
def printedText (v : Value) : Run Text := do
  match v with
  | .number n => return numberText (← textIn "OFMT") n
  | v => textOf v

/-- The innermost names are those of a function while it is run. -/
def withFrame (frame : List (Text × Slot)) (act : Run Value) : Run Value := do
  let frames := (← get).frames
  modify fun s => { s with frames := frame :: frames }
  try
    let v ← act
    modify fun s => { s with frames }
    return v
  catch e =>
    modify fun s => { s with frames }
    throw e

/-- What a function is given for a name: the array, or the value, or what may become an array. -/
def handedOn (x : Text) : Run Slot := do
  match ← slot? x with
  | some (.array id) => return .array id
  | some (.undecided id) => return .undecided id
  | none | some (.value .nothing) =>
    if x == "NF".toList then return .value (← valueOfName x)
    else
      let id ← newArray {}
      setSlot x (.undecided id)
      return .undecided id
  | some (.value v) => return .value v

mutual

/-- The value of an expression. -/
def eval (w : World) : Nat → Expr → Run Value
  | 0, _ => throw (.fatal "program limit exceeded: eval stack size=1024")
  | n + 1, e => do
    match e with
    | .number v => return .number (.ofRat v)
    | .text s => return .text s
    | .regex m => return .ofTruth (m.isIn (← recordOf))
    | .name x => valueOfName x
    | .field e => do (← spotOf w n (.field e)).read
    | .item a es => do (← spotOf w n (.item a es)).read
    | .assign op target value =>
      let spot ← spotOf w n target
      let v ← eval w n value
      let v ← match op with
        | none => pure v
        | some op => do
          let before := (← spot.read).toNumber
          pure (.number (op.apply before v.toNumber))
      spot.put v
      return v
    | .step before up target =>
      let spot ← spotOf w n target
      let old := (← spot.read).toNumber
      let new := if up then old.add (.finite 1) else old.subtract (.finite 1)
      spot.put (.number new)
      return .number (if before then new else old)
    | .choice test yes no =>
      if (← eval w n test).isTrue then eval w n yes else eval w n no
    | .both a b =>
      if (← eval w n a).isTrue then return .ofTruth (← eval w n b).isTrue
      else return .ofTruth false
    | .either a b =>
      if (← eval w n a).isTrue then return .ofTruth true
      else return .ofTruth (← eval w n b).isTrue
    | .not e => return .ofTruth !(← eval w n e).isTrue
    | .negate e => return .number (← eval w n e).toNumber.negate
    | .plus e => return .number (← eval w n e).toNumber
    | .arith op a b =>
      let x ← eval w n a
      let y ← eval w n b
      return .number (op.apply x.toNumber y.toNumber)
    | .compare op a b =>
      let x ← eval w n a
      let y ← eval w n b
      return .ofTruth (Value.holds (← numberFormat) op x y)
    | .matching negated e pattern =>
      let s ← textOf (← eval w n e)
      let m ← matcherOf w n pattern
      return .ofTruth (m.isIn s != negated)
    | .join a b =>
      let s ← textOf (← eval w n a)
      let t ← textOf (← eval w n b)
      return .text (s ++ t)
    | .contains es a =>
      let k ← keyOf (← evalAll w n es)
      let id ← arrayOf a
      let (v, items) := (← itemsOf id).find k false
      setItems id items
      return .ofTruth v.isSome
    | .call f args => call w n f args
    | .builtin b args => builtin w n b args
    | .getline target file =>
      match file with
      | none =>
        match ← nextCounted with
        | none => return .ofInt 0
        | some s => received w n target s
      | some file =>
        let name ← textOf (← eval w n file)
        match ← recordFrom w.runner false name with
        | none => return .ofInt (-1)
        | some none => return .ofInt 0
        | some (some s) => received w n target s
    | .getlineFrom command target =>
      let name ← textOf (← eval w n command)
      match ← recordFrom w.runner true name with
      | none => return .ofInt (-1)
      | some none => return .ofInt 0
      | some (some s) => received w n target s
    | .group es =>
      match es with
      | [e] => eval w n e
      | es =>
        match ← keyOf (← evalAll w n es) with
        | .text s => return .text s
        | .number k => return .ofInt k

/-- The values of expressions. -/
def evalAll (w : World) : Nat → List Expr → Run (List Value)
  | 0, _ => throw (.fatal "program limit exceeded: eval stack size=1024")
  | _, [] => return []
  | n + 1, e :: es => do
    let v ← eval w n e
    return v :: (← evalAll w n es)

/-- Puts a record where it is wanted. -/
def received (w : World) : Nat → Option Expr → Text → Run Value
  | 0, _, _ => throw (.fatal "program limit exceeded: eval stack size=1024")
  | n + 1, target, s => do
    match target with
    | none => setRecord s
    | some e => do (← spotOf w n e).put (.input s)
    return .ofInt 1

/-- The place that an expression names. -/
def spotOf (w : World) : Nat → Expr → Run Spot
  | 0, _ => throw (.fatal "program limit exceeded: eval stack size=1024")
  | n + 1, e => do
    match e with
    | .name x => return .name x
    | .field e =>
      let i := toWord (← eval w n e).toNumber
      if i < 0 then faultAt ("negative field index $".toList ++ showInteger i)
      return .field i.toNat
    | .item a es =>
      let k ← keyOf (← evalAll w n es)
      return .item (← arrayOf a) k
    | .group [e] => spotOf w n e
    | _ => throw (.fatal "line 1: syntax error")

/-- The expression that is looked for. -/
def matcherOf (w : World) : Nat → Expr → Run Matcher
  | 0, _ => throw (.fatal "program limit exceeded: eval stack size=1024")
  | n + 1, e => do
    match e with
    | .regex m => return m
    | .group [.regex m] => return m
    | e => do matcherFor (← textOf (← eval w n e))

/-- Calls a function of the program. -/
def call (w : World) : Nat → Text → List Expr → Run Value
  | 0, _, _ => throw (.fatal "program limit exceeded: eval stack size=1024")
  | n + 1, f, args => do
    match w.program.functions.lookup f with
    | none => throw (.fatal ("line 1: function " ++ shown f ++ " never defined"))
    | some f =>
      let given ← slotsOf w n args
      let rest := List.replicate (f.params.length - given.length) (Slot.value .nothing)
      withFrame (f.params.zip (given ++ rest)) do
        try
          execute w n f.body
          return .nothing
        catch e =>
          match e with
          | .giveBack v => return v
          | e => throw e

/-- What a function is given. -/
def slotsOf (w : World) : Nat → List Expr → Run (List Slot)
  | 0, _ => throw (.fatal "program limit exceeded: eval stack size=1024")
  | _, [] => return []
  | n + 1, e :: es => do
    let slot ← match e with
      | .name x => handedOn x
      | e => do pure (.value (← eval w n e))
    return slot :: (← slotsOf w n es)

/-- Calls a function that is there from the beginning. -/
def builtin (w : World) : Nat → Builtin → List Expr → Run Value
  | 0, _, _ => throw (.fatal "program limit exceeded: eval stack size=1024")
  | n + 1, b, args => do
    match b, args with
    | .length, [.name x] =>
      if ← isArray x then return .ofInt (← itemsOf (← arrayOf x)).size
      else return .ofInt (← textOf (← valueOfName x)).length
    | .split, s :: .name a :: rest =>
      let s ← textOf (← eval w n s)
      let sep ← match rest with
        | [] => do separatorOf (← textIn "FS")
        | .regex m :: _ => pure (.regex m)
        | e :: _ => do separatorOf (← textOf (← eval w n e))
      let pieces := (sep.cut s).map Value.input
      setItems (← arrayOf a) (.ofList pieces)
      return .ofInt pieces.length
    | .matchText, [s, e] =>
      let s ← textOf (← eval w n s)
      let m ← matcherOf w n e
      let (start, length) : Int × Int :=
        match m.search? (.start s) with
        | some found => (found.start.index + 1, found.length)
        | none => (0, -1)
      setGlobal "RSTART" (.ofInt start)
      setGlobal "RLENGTH" (.ofInt length)
      return .ofInt start
    | .sub, e :: text :: rest => substitute w n false e text rest
    | .gsub, e :: text :: rest => substitute w n true e text rest
    | b, args => do plainFunction w b (← evalAll w n args)

/-- Replaces matches in a place, or in the record. -/
def substitute (w : World) : Nat → Bool → Expr → Expr → List Expr → Run Value
  | 0, _, _, _, _ => throw (.fatal "program limit exceeded: eval stack size=1024")
  | n + 1, every, e, text, rest => do
    let m ← matcherOf w n e
    let text ← textOf (← eval w n text)
    let target := rest.headD (.field (.number 0))
    let spot ←
      if isTarget target then do pure (some (← spotOf w n target)) else pure none
    let old ← match spot with
      | some spot => do textOf (← spot.read)
      | none => do textOf (← eval w n target)
    let (new, k) := replaceFrom m every text (2 * old.length + 2) 0 none [] (.start old)
    match spot with
    | some spot => if k != 0 then spot.put (.text new)
    | none => pure ()
    return .ofInt k

/-- Carries a statement out. -/
def execute (w : World) : Nat → Statement → Run Unit
  | 0, _ => throw (.fatal "program limit exceeded: eval stack size=1024")
  | n + 1, s => do
    tick
    match s with
    | .expr e => discard (eval w n e)
    | .print args outlet =>
      let text ←
        if args.isEmpty then recordOf
        else do
          let texts ← (← evalAll w n args).mapM printedText
          pure ((← textIn "OFS").intercalate texts)
      let text := text ++ (← textIn "ORS")
      printOn (← streamOf w n outlet) text
    | .printf args outlet =>
      let vs ← evalAll w n args
      let stream ← streamOf w n outlet
      withFormatted "printf" vs (printOn stream)
    | .branch test yes no =>
      if (← eval w n test).isTrue then execute w n yes
      else
        match no with
        | some no => execute w n no
        | none => pure ()
    | .loop test body =>
      repeatWhile Action.turnMax do
        tick
        if (← eval w n test).isTrue then loopTurn (execute w n body) else return false
    | .loopAfter body test =>
      repeatWhile Action.turnMax do
        tick
        if ← loopTurn (execute w n body) then return (← eval w n test).isTrue else return false
    | .count start test step body =>
      (match start with
        | some s => execute w n s
        | none => pure ())
      repeatWhile Action.turnMax do
        tick
        let holds ← match test with
          | some e => do pure (← eval w n e).isTrue
          | none => pure true
        if !holds then return false
        else if ← loopTurn (execute w n body) then
          (match step with
            | some s => execute w n s
            | none => pure ())
          return true
        else return false
    | .each x a body =>
      let id ← arrayOf a
      let items := (← itemsOf id).asTexts
      setItems id items
      eachText items.keys fun k => do
        Spot.put (.text k) (.name x)
        loopTurn (execute w n body)
    | .block ss => executeAll w n ss
    | .next => throw .next
    | .nextFile => throw .nextFile
    | .exit status =>
      match status with
      | some e =>
        let v := toWord (← eval w n e).toNumber
        modify fun s => { s with status := (v % 256).toNat }
      | none => pure ()
      throw .exit
    | .giveBack value =>
      let v ← match value with
        | some e => eval w n e
        | none => pure .nothing
      throw (.giveBack v)
    | .leave => throw .leave
    | .proceed => throw .proceed
    | .delete a es =>
      let id ← arrayOf a
      if es.isEmpty then setItems id {}
      else
        let k ← keyOf (← evalAll w n es)
        setItems id ((← itemsOf id).erase k)

/-- Carries statements out. -/
def executeAll (w : World) : Nat → List Statement → Run Unit
  | 0, _ => throw (.fatal "program limit exceeded: eval stack size=1024")
  | _, [] => pure ()
  | n + 1, s :: ss => do
    execute w n s
    executeAll w n ss

/-- The stream that is printed to. -/
def streamOf (w : World) : Nat → Option (Outlet × Expr) → Run Nat
  | 0, _ => throw (.fatal "program limit exceeded: eval stack size=1024")
  | n + 1, outlet => do
    match outlet with
    | none => return 1
    | some (outlet, e) => do sinkFor w.runner outlet (← textOf (← eval w n e))

end

/-! ### The course of a run -/

/-- How deep expressions, statements and functions may lie in one another. -/
def depthMax : Nat := 20000

/-- Whether a rule is for the record. -/
def fits (w : World) (i : Nat) (c : Condition) : Run Bool := do
  let holds (e : Expr) : Run Bool := do return (← eval w depthMax e).isTrue
  match c with
  | .start | .finish => return false
  | .always => return true
  | .test e => holds e
  | .range first last =>
    let begun ← if (← get).ranges.contains i then pure true else holds first
    if begun then
      let ends ← holds last
      modify fun s => { s with
        ranges := if ends then s.ranges.filter (· != i)
          else i :: s.ranges.filter (· != i) }
    return begun

/-- Runs the rules for the record. -/
def runRules (w : World) : Run Unit := do
  for (rule, i) in w.program.rules.zipIdx do
    if ← fits w i rule.condition then
      match rule.action with
      | some action => execute w depthMax action
      | none => printOn 1 ((← recordOf) ++ (← textIn "ORS"))

/-- Runs the rules for each record. -/
def runRecords (w : World) : Run Unit :=
  repeatWhile Action.turnMax do
    tick
    match ← nextCounted with
    | none => return false
    | some s =>
      setRecord s
      try
        runRules w
        return true
      catch e =>
        match e with
        | .next => return true
        | .nextFile =>
          modify fun s => { s with input := none }
          return true
        | e => throw e

/-- Runs the rules for the beginning or the end. -/
def runEdge (w : World) (first : Bool) : Run Unit := do
  for rule in w.program.rules do
    match rule.condition, rule.action with
    | .start, some action => if first then execute w depthMax action
    | .finish, some action => if !first then execute w depthMax action
    | _, _ => pure ()

/-- Says whether something was left by `exit`. -/
def exits (act : Run Unit) : Run Bool := do
  try
    act
    return false
  catch e =>
    match e with
    | .exit => return true
    | e => throw e

/-- Runs a program. -/
def runProgram (w : World) : Run Unit := do
  let isStart (r : Clause) : Bool := match r.condition with
    | .start => true
    | _ => false
  let left ← exits (runEdge w true)
  if !left && !w.program.rules.all isStart then discard (exits (runRecords w))
  discard (exits (runEdge w false))

/-- Closes all that is printed to. -/
def finish : Run Unit := do
  let (commands, others) := (← get).sinks.partition Sink.isCommand
  for k in commands ++ others do
    discard (closeSink k)

/-- Runs a program with arguments, variables that are set before, and names of variables from
outside. Gives the status, and what is to be complained of. -/
def run (w : World) (given : List Text) (settings : List (Text × Text))
    (environment : List (Text × Text)) : Shell.Action (Nat × Option String) := do
  let text (s : Text) : Slot := .value (.text s)
  let items (vs : List (Key × Text)) : Items :=
    vs.foldl (fun t v => t.put v.1 (.input v.2)) {}
  let arguments := given.zipIdx.map fun (a, i) => (Key.number i, a)
  let start : State :=
    { arrays := #[items arguments, items (environment.map fun p => (.text p.1, p.2))]
      globals :=
        [("FS".toList, text [' ']), ("OFS".toList, text [' ']), ("ORS".toList, text ['\n']),
          ("RS".toList, text ['\n']), ("NR".toList, .value (.ofInt 0)),
          ("FNR".toList, .value (.ofInt 0)), ("SUBSEP".toList, text [Char.ofNat 28]),
          ("CONVFMT".toList, text "%.6g".toList), ("OFMT".toList, text "%.6g".toList),
          ("ARGC".toList, .value (.ofInt given.length)), ("ARGV".toList, .array 0),
          ("ENVIRON".toList, .array 1)] }
  let act (f : Run Unit) (s : State) : Shell.Action (Option String × State) := do
    let (r, s) ← StateT.run (ExceptT.run f) s
    return match r with
      | .error (.fatal message) => (some message, s)
      | _ => (none, s)
  let (fault, s) ← act (do
    for (x, value) in settings do
      Spot.put (.input (unescaped value)) (.name x)
    runProgram w) start
  let (late, s) ← act finish s
  match fault with
  | some message => return (2, some message)
  | none => return match late with
    | some message => (2, some message)
    | none => (s.status, none)

end Rule
end Shell
end StressBench
