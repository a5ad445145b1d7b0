/-
# Tools that change entries of the disk

Files, directories and links are made, moved, copied and removed. Each tool goes on after
an argument that it cannot deal with, and its status tells that there was one.

Key definitions: `Tool.rm`, `Tool.mkdir`, `Tool.touch`, `Tool.mv`, `Tool.cp`, `Tool.ln`,
`Tool.chmod`.
-/
import StressBench.Shell.Mode
import StressBench.Shell.Tool.Reading

namespace StressBench
namespace Shell
namespace Tool

/-! ### Arguments and entries -/

/-- Deals with arguments in turn; the status is 1 if one of them could not be dealt with. -/
def eachArgument (args : List Text) (act : Text → Action Bool) : Action Nat := do
  let mut status := 0
  for a in args do
    unless ← act a do status := 1
  return status

/-- Carries out an operation on the disk, or complains. -/
def tryDisk (op : Disk → Location → Except IoError Disk) (complaint : Nat → Action Unit) :
    Action Bool := do
  match ← Action.onDisk op with
  | none => return true
  | some e =>
    complaint e
    return false

/-- The location of the entry that a path names, links not followed, and the entry. -/
def entryAt? (path : Text) : Action (Option (Location × Entry)) := do
  let d ← Action.disk
  match d.resolve .unlessSlash (← Action.own).cwd (toBytes path) with
  | .ok (.directory loc) => return some (loc, .directory (d.modeAt loc))
  | .ok _ =>
    match d.resolve .never (← Action.own).cwd (toBytes path) with
    | .ok (.directory loc) => return some (loc, .directory (d.modeAt loc))
    | .ok (.name parent n _) => return (d.get (n :: parent)).map fun e => (n :: parent, e)
    | .error _ => return none
  | .error _ =>
    match d.resolve .never (← Action.own).cwd (toBytes path) with
    | .ok (.name parent n _) => return (d.get (n :: parent)).map fun e => (n :: parent, e)
    | _ => return none

/-- The location and the entry that a path leads to, or the number of the error. -/
def leadsTo (path : Text) : Action (Except Nat (Location × Entry)) := do
  match (← Action.disk).lookup (← Action.own).cwd (toBytes path) with
  | .ok found => return .ok found
  | .error e => return .error (Action.errorNumber e)

/-- Whether a path leads to a directory. -/
def isDirectory (path : Text) : Action Bool := do
  match ← leadsTo path with
  | .ok (_, .directory _) => return true
  | _ => return false

/-- The last name of a path, without slashes behind it. -/
def lastName (path : Text) : Text :=
  let trimmed := (path.reverse.dropWhile (· == '/')).reverse
  if trimmed.isEmpty then path.take 1 else (trimmed.reverse.takeWhile (· != '/')).reverse

/-- A name in a directory as a path. -/
def inside (dir name : Text) : Text :=
  if dir.getLast? == some '/' then dir ++ name else dir ++ '/' :: name

/-- What an entry is called. -/
def kindName : Entry → String
  | .directory _ => "directory"
  | .file content _ => if content.isEmpty then "regular empty file" else "regular file"
  | .link _ => "symbolic link"
  | .device _ => "character special file"

/-- Asks a question and says whether the answer is yes. -/
def asks (question : Text) : Action Bool := do
  Action.write 2 question
  let answer ← Action.readLine
  return answer.head? == some 'y' || answer.head? == some 'Y'

/-! ### Removing -/

/-- How entries are removed. -/
structure Removal where
  force : Bool
  deep : Bool
  emptyOnes : Bool
  asking : Bool
  verbose : Bool

/-- Removes an entry, and with `deep` all that is below it. -/
def remove (name : Text) (r : Removal) : Nat → Text → Action Bool
  | 0, _ => return false
  | n + 1, path => do
    let complain := withWords name "cannot remove" path
    match ← entryAt? path with
    | none => do
      match ← leadsTo path with
      | .error e =>
        if r.force && (e == Errno.noEntry || e == Errno.notDirectory) then return true
        complain e
      | .ok _ => complain Errno.notDirectory
      return false
    | some (loc, .directory mode) => do
      if r.deep then
        if ["." , ".."].contains (String.ofList (lastName path)) then
          fault name ("refusing to remove '.' or '..' directory: skipping " ++ inQuotes path)
          return false
        let names := (← Action.disk).children loc
        if !names.isEmpty && !mode.canRead then
          complain Errno.accessDenied
          return false
        if r.asking && !names.isEmpty then
          unless ← asks (name ++ ": descend into directory ".toList ++ (inQuotes path).toList ++
            "? ".toList) do
            return true
        let mut good := true
        for child in names do
          unless ← remove name r n (inside path (ofBytes child)) do good := false
        if good then takeDirectory complain path else return false
      else if r.emptyOnes then takeDirectory complain path
      else
        complain Errno.isDirectory
        return false
    | some (_, entry) => do
      if r.asking then
        unless ← asks (name ++ ": remove ".toList ++ (kindName entry).toList ++ ' ' ::
            (inQuotes path).toList ++ "? ".toList) do
          return true
      let removed ← tryDisk (fun d cwd =>
        match d.removeFile cwd (toBytes path) with
        | (.ok (), d) => .ok d
        | (.error e, _) => .error e) complain
      if removed && r.verbose then Action.printLine ("removed ".toList ++ (inQuotes path).toList)
      return removed
where
  /-- Removes an empty directory. -/
  takeDirectory (complain : Nat → Action Unit) (path : Text) : Action Bool := do
    if r.asking then
      unless ← asks (name ++ ": remove directory ".toList ++ (inQuotes path).toList ++
        "? ".toList) do
        return true
    let removed ← tryDisk (fun d cwd => d.removeDirectory cwd (toBytes path)) complain
    if removed && r.verbose then
      Action.printLine ("removed directory ".toList ++ (inQuotes path).toList)
    return removed

/-- How deep trees are gone into. -/
def treeDepth : Nat := 5000

/-- Removes files, and with `-r` directories too. -/
def rm : Tool := withOptions ("f/force i I /interactive? r/recursive R d/dir v/verbose " ++
    "/one-file-system /no-preserve-root /preserve-root?") 1 fun name o => do
  let last := o.lastOf? ["f", "i", "I"]
  let r : Removal :=
    { force := o.has "f", deep := o.has "r" || o.has "R", emptyOnes := o.has "d",
      asking := last == some "i", verbose := o.has "v" }
  if o.operands.isEmpty then
    if r.force then return 0 else missingOperand name "operand"
  else eachArgument o.operands (remove name r treeDepth)

/-- Removes empty directories. -/
def rmdir : Tool := withOptions "p/parents v/verbose /ignore-fail-on-non-empty" 1 fun name o => do
  if o.operands.isEmpty then missingOperand name "operand"
  else
    eachArgument o.operands fun path => do
      let parts := path.splitOnP (· == '/')
      let paths :=
        if o.has "p" then
          ((List.range parts.length).map fun i =>
            ['/'].intercalate (parts.take (parts.length - i))).filter
            (!·.isEmpty)
        else [path]
      for path in paths do
        if o.has "v" then
          Action.printLine (name ++ ": removing directory, ".toList ++ (inQuotes path).toList)
        match ← Action.onDisk fun d cwd => d.removeDirectory cwd (toBytes path) with
        | none => pure ()
        | some e =>
          if o.has "ignore-fail-on-non-empty" && e == Errno.notEmpty then return true
          withWords name "failed to remove" path e
          return false
      return true

/-- Removes one file. -/
def unlink : Tool := withOptions "" 1 fun name o => do
  match o.operands with
  | [] => missingOperand name "operand"
  | [path] =>
    let removed ← tryDisk (fun d cwd =>
      match d.removeFile cwd (toBytes path) with
      | (.ok (), d) => .ok d
      | (.error e, _) => .error e) (withWords name "cannot unlink" path)
    return if removed then 0 else 1
  | _ :: extra :: _ => extraOperand name extra

/-! ### Making -/

/-- The bits of a mode that the process gives to what it makes. -/
def masked (mode : Mode) : Action Mode :=
  return mode &&& (0o777 ^^^ (← Action.own).mask)

/-- Makes a directory. -/
def makeOne (name : Text) (verbose : Bool) (mode : Mode) (path : Text) : Action Bool := do
  let made ← tryDisk (fun d cwd => d.makeDirectory cwd (toBytes path) mode)
    (withWords name "cannot create directory" path)
  if made && verbose then
    Action.printLine (name ++ ": created directory ".toList ++ (inQuotes path).toList)
  return made

/-- Makes directories, and with `-p` those above them. -/
def mkdir : Tool := withOptions "p/parents m/mode= v/verbose" 1 fun name o => do
  if o.operands.isEmpty then missingOperand name "operand"
  else
    let usual ← masked 0o777
    match (o.last? "m").map (Mode.changedBy? (← Action.own).mask true · 0o777) with
    | some none => refuse name ("invalid mode " ++ inQuotes ((o.last? "m").getD [])) 1
    | given =>
      let mode := (given.bind id).getD usual
      eachArgument o.operands fun path => do
        if !o.has "p" then makeOne name (o.has "v") mode path
        else
          let parts := (path.splitOnP (· == '/')).filter (!·.isEmpty)
          let start : Text := if path.head? == some '/' then ['/'] else []
          for i in List.range parts.length do
            let step := start ++ ['/'].intercalate (parts.take (i + 1))
            match ← leadsTo step with
            | .ok (_, .directory _) => pure ()
            | .ok _ =>
              withWords name "cannot create directory" step
                (if i + 1 == parts.length then Errno.fileExists else Errno.notDirectory)
              return false
            | .error _ =>
              -- those on the way stay open to what comes below them
              let mode := if i + 1 == parts.length then mode else usual ||| 0o300
              unless ← makeOne name (o.has "v") mode step do return false
          return true

/-- Gives a new file the mode that the process gives its files. -/
def giveMode (path : Text) (mode : Mode) : Action Unit := do
  let mode ← masked mode
  discard (Action.onDisk fun d cwd => d.setMode cwd (toBytes path) mode)

/-- Makes the files that do not exist. -/
def touch : Tool := withOptions ("a c/no-create d/date= f h/no-dereference m r/reference= t= " ++
    "/time=") 1 fun name o => do
  if o.operands.isEmpty then missingOperand name "file operand"
  else
    eachArgument o.operands fun path => do
      match ← leadsTo path with
      | .ok _ => return true
      | .error e =>
        if e == Errno.noEntry && o.has "c" then return true
        let made ← tryDisk (fun d cwd =>
          if e == Errno.noEntry then d.putFile cwd (toBytes path) [] else .error (.system e))
          (withWords name "cannot touch" path)
        if made then giveMode path 0o666
        return made

/-- Sets the sizes of files. -/
def truncate : Tool := withOptions "s/size= c/no-create o/io-blocks r/reference=" 1 fun name o => do
  match o.last? "s", o.last? "r" with
  | none, none => misuse name "you must specify either '--size' or '--reference'" 1
  | size, reference =>
    let given := size.getD []
    let signed := given.head? == some '+' || given.head? == some '-'
    let number := Numeral.scaled? (if signed then given.drop 1 else given)
    let other ← match reference with
      | some path => do
        match ← leadsTo path with
        | .ok (_, .file content _) => pure (some content.length)
        | _ => pure none
      | none => pure none
    match number.orElse fun _ => other with
    | none => refuse name ("Invalid number: " ++ inQuotes given) 1
    | some n =>
      if o.operands.isEmpty then missingOperand name "file operand"
      else
        eachArgument o.operands fun path => do
          let content ← match ← leadsTo path with
            | .ok (_, .file content _) => pure (some content)
            | _ => pure none
          if content.isNone && o.has "c" then return true
          let old := content.getD []
          let length :=
            match given.head? with
            | some '+' => old.length + n
            | some '-' => old.length - n
            | _ => n
          let new := old.take length ++ List.replicate (length - old.length) 0
          tryDisk (fun d cwd => d.putFile cwd (toBytes path) new) fun e =>
            fault name ("cannot open " ++ inQuotes path ++ " for writing: " ++ Errno.text e)

/-! ### Moving and copying -/

/-- Where the sources go: the target itself, or each into a directory. -/
structure Destination where
  sources : List Text
  target : Text
  isDirectory : Bool

/-- Reads sources and their target from arguments, or complains. -/
def destinationOf (name : Text) (o : Options) : Action (Option Destination) := do
  match o.last? "t" with
  | some dir => do
    if o.operands.isEmpty then
      discard (missingOperand name "file operand")
      return none
    match ← leadsTo dir with
    | .ok (_, .directory _) => return some ⟨o.operands, dir, true⟩
    | .ok _ =>
      fault name ("target directory " ++ inQuotes dir ++ ": " ++ Errno.text Errno.notDirectory)
      return none
    | .error e =>
      fault name ("target directory " ++ inQuotes dir ++ ": " ++ Errno.text e)
      return none
  | none => do
    match o.operands.reverse with
    | [] =>
      discard (missingOperand name "file operand")
      return none
    | [only] =>
      discard (misuse name ("missing destination file operand after " ++ inQuotes only) 1)
      return none
    | target :: sources => do
      let isDir ← isDirectory target
      if o.has "T" then
        match sources with
        | [_] => return some ⟨sources, target, false⟩
        | _ =>
          discard (extraOperand name target)
          return none
      else if isDir then return some ⟨sources.reverse, target, true⟩
      else
        match sources with
        | [_] => return some ⟨sources, target, false⟩
        | _ =>
          let e ← match ← leadsTo target with
            | .ok _ => pure Errno.notDirectory
            | .error e => pure e
          fault name ("target " ++ inQuotes target ++ ": " ++ Errno.text e)
          return none

/-- Deals with each of the sources and its place. -/
def eachSource (d : Destination) (act : Text → Text → Action Bool) : Action Nat :=
  eachArgument d.sources fun source =>
    act source (if d.isDirectory then inside d.target (lastName source) else d.target)

/-- Moves files and directories. -/
def mv : Tool := withOptions ("f/force i/interactive n/no-clobber v/verbose t/target-directory= " ++
    "T/no-target-directory u/update? b S/suffix= /strip-trailing-slashes") 1 fun name o => do
  match ← destinationOf name o with
  | none => return 1
  | some dest =>
    eachSource dest fun source place => do
      match ← entryAt? source, ← entryAt? place with
      | none, _ =>
        let e ← match ← leadsTo source with
          | .error e => pure e
          | .ok _ => pure Errno.notDirectory
        withWords name "cannot stat" source e
        return false
      | some (a, ea), existing =>
        let names := inQuotes source ++ " to " ++ inQuotes place
        match existing with
        | some (b, eb) =>
          if a == b then
            fault name (inQuotes source ++ " and " ++ inQuotes place ++ " are the same file")
            return false
          if o.has "n" then return true
          match ea, eb with
          | .directory _, .directory _ => pure ()
          | .directory _, _ =>
            fault name ("cannot overwrite non-directory " ++ inQuotes place ++ " with directory " ++
              inQuotes source)
            return false
          | _, .directory _ =>
            fault name ("cannot overwrite directory " ++ inQuotes place ++ " with non-directory")
            return false
          | _, _ =>
            if o.lastOf? ["f", "i"] == some "i" then
              unless ← asks (name ++ ": overwrite ".toList ++ (inQuotes place).toList ++
                "? ".toList) do
                return true
        | none => pure ()
        match ← Action.onDisk fun d cwd => d.rename cwd (toBytes source) (toBytes place) with
        | none =>
          if o.has "v" then
            Action.printLine ("renamed ".toList ++ (inQuotes source).toList ++ " -> ".toList ++
              (inQuotes place).toList)
          return true
        | some e =>
          if e == Errno.invalidArgument then
            fault name ("cannot move " ++ inQuotes source ++ " to a subdirectory of itself, " ++
              inQuotes place)
          else fault name ("cannot move " ++ names ++ ": " ++ Errno.text e)
          return false

/-- How entries are copied. -/
structure Copying where
  deep : Bool
  keepLinks : Bool
  keepMode : Bool
  force : Bool
  keepOld : Bool
  verbose : Bool

/-- Copies an entry to a place, and with `deep` all that is below it. -/
def copy (name : Text) (c : Copying) : Nat → Text → Text → Action Bool
  | 0, _, _ => return false
  | n + 1, source, place => do
    let told : Action Bool := do
      if c.verbose then
        Action.printLine ((inQuotes source).toList ++ " -> ".toList ++ (inQuotes place).toList)
      return true
    let named ← entryAt? source
    match (if c.keepLinks then named else none), ← leadsTo source with
    | some (_, .link target), _ => do
      let placed ← entryAt? place
      if let some (_, .directory _) := placed then
        fault name ("cannot overwrite directory " ++ inQuotes place ++ " with non-directory " ++
          inQuotes source)
        return false
      discard (Action.onDisk fun d cwd =>
        match d.removeFile cwd (toBytes place) with
        | (.ok (), d) => .ok d
        | (.error e, _) => .error e)
      if ← tryDisk (fun d cwd => d.makeLink cwd target (toBytes place))
          (withWords name "cannot create symbolic link" place) then told
      else return false
    | _, .error e => do
      withWords name "cannot stat" source e
      return false
    | _, .ok (loc, .directory mode) => do
      if !c.deep then
        fault name ("-r not specified; omitting directory " ++ inQuotes source)
        return false
      if !mode.canRead then
        withWords name "cannot access" source Errno.accessDenied
        return false
      let there ← leadsTo place
      match there with
      | .ok (_, .directory _) => pure ()
      | .ok _ =>
        fault name ("cannot overwrite non-directory " ++ inQuotes place ++ " with directory " ++
          inQuotes source)
        return false
      | .error _ =>
        unless ← tryDisk (fun d cwd => d.makeDirectory cwd (toBytes place))
            (withWords name "cannot create directory" place) do
          return false
        discard told
      let names := ((← Action.disk).children loc).map ofBytes
      match ← leadsTo place with
      | .ok (loc', _) =>
        if loc.isSuffixOf loc' then
          fault name ("cannot copy a directory, " ++ inQuotes source ++ ", into itself, " ++
            inQuotes place)
          return false
      | .error _ => pure ()
      let mut good := true
      for child in names do
        unless ← copy name c n (inside source child) (inside place child) do good := false
      if c.keepMode then discard (Action.onDisk fun d cwd => d.setMode cwd (toBytes place) mode)
      else if !there.toBool then giveMode place mode
      return good
    | _, .ok (loc, entry) => do
      let there ← leadsTo place
      match there with
      | .ok (loc', .directory _) =>
        if loc == loc' then return false
        fault name ("cannot overwrite directory " ++ inQuotes place ++ " with non-directory " ++
          inQuotes source)
        return false
      | .ok (loc', _) =>
        if loc == loc' then
          fault name (inQuotes source ++ " and " ++ inQuotes place ++ " are the same file")
          return false
        if c.keepOld then return true
      | .error _ => pure ()
      match ← withInput source Action.readAll with
      | .error e =>
        fault name ("cannot open " ++ inQuotes source ++ " for reading: " ++ Errno.text e)
        return false
      | .ok text =>
        let mode := match entry with
          | .file _ mode => mode
          | _ => 0o666
        let put (complaint : Nat → Action Unit) : Action Bool := do
          match ← Action.openForWriting false place with
          | .error e =>
            complaint e
            return false
          | .ok channel =>
            match ← Action.withStreams (Action.led 1 channel) (Action.tryWrite 1 text) with
            | none => return true
            | some e =>
              fault name ("error writing " ++ inQuotes place ++ ": " ++ Errno.text e)
              return false
        let complain := withWords name "cannot create regular file" place
        let written ←
          if c.force && there.toBool then do
            if ← put fun _ => pure () then pure true
            else do
              discard (Action.onDisk fun d cwd =>
                match d.removeFile cwd (toBytes place) with
                | (.ok (), d) => .ok d
                | (.error e, _) => .error e)
              put complain
          else put complain
        if written then
          if c.keepMode then discard (Action.onDisk fun d cwd => d.setMode cwd (toBytes place) mode)
          else if !there.toBool then giveMode place mode
          told
        else return false

/-- Copies files, and with `-r` directories too. -/
def cp : Tool :=
  withOptions ("a/archive b f/force i/interactive H l/link L/dereference n/no-clobber " ++
    "P/no-dereference p/preserve? r/recursive R s/symbolic-link S/suffix= t/target-directory= " ++
    "T/no-target-directory u/update? v/verbose d x /strip-trailing-slashes /no-preserve= " ++
    "/reflink? " ++
    "/sparse= /parents") 1 fun name o => do
  let deep := o.has "r" || o.has "R" || o.has "a"
  let follow := o.lastOf? ["L", "P", "H", "d", "a"]
  let c : Copying :=
    { deep
      keepLinks := (deep && follow != some "L") ||
        (follow.isSome && follow != some "L" && follow != some "H")
      keepMode := o.has "p" || o.has "a"
      force := o.has "f"
      keepOld := o.has "n"
      verbose := o.has "v" }
  match ← destinationOf name o with
  | none => return 1
  | some dest =>
    eachSource dest fun source place => do
      if o.has "s" then
        tryDisk (fun d cwd => d.makeLink cwd (toBytes source) (toBytes place))
          (withWords name "cannot create symbolic link" place)
      else copy name c treeDepth source place

/-- Makes links. One that is not symbolic is a copy. -/
def ln : Tool := withOptions ("s/symbolic f/force n/no-dereference i/interactive v/verbose b " ++
    "t/target-directory= T/no-target-directory r/relative S/suffix= L/logical P/physical d F") 1
    fun name o => do
  let o := match o.operands, o.has "t" || o.has "T" with
    | [only], false => { o with operands := [only, ['.']] }
    | _, _ => o
  let linkTarget ← match o.operands.getLast? with
    | some target => do
      match ← entryAt? target with
      | some (_, .link _) => pure (o.has "n")
      | _ => pure false
    | none => pure false
  let dest ← match linkTarget, o.operands with
    | true, [source, target] => pure (some (⟨[source], target, false⟩ : Destination))
    | _, _ => destinationOf name o
  match dest with
  | none => return 1
  | some dest =>
    eachSource dest fun source place => do
      let told : Action Bool := do
        if o.has "v" then
          Action.printLine ((inQuotes place).toList ++
            (if o.has "s" then " -> " else " => ").toList ++
            (inQuotes source).toList)
        return true
      let clear : Action Unit := do
        if o.has "f" then
          discard (Action.onDisk fun d cwd =>
            match d.removeFile cwd (toBytes place) with
            | (.ok (), d) => .ok d
            | (.error e, _) => .error e)
      if o.has "s" then
        clear
        if ← tryDisk (fun d cwd => d.makeLink cwd (toBytes source) (toBytes place))
            (withWords name "failed to create symbolic link" place) then told
        else return false
      else
        match ← entryAt? source with
        | none =>
          let e ← match ← leadsTo source with
            | .error e => pure e
            | .ok _ => pure Errno.noEntry
          withWords name "failed to access" source e
          return false
        | some (_, .directory _) =>
          fault name (shown source ++ ": hard link not allowed for directory")
          return false
        | some (loc, entry) =>
          match ← entryAt? place with
          | some (loc', _) =>
            if loc == loc' then
              fault name (inQuotes source ++ " and " ++ inQuotes place ++ " are the same file")
              return false
            clear
          | none => pure ()
          if ← tryDisk (fun d cwd =>
              match d.freeName cwd (toBytes place) false with
              | .error e => .error e
              | .ok loc => .ok (d.put loc entry)) (fun e =>
                if e == Errno.fileExists then withWords name "failed to create hard link" place e
                else
                  fault name ("failed to create hard link " ++ inQuotes place ++ " => " ++
                    inQuotes source ++ ": " ++ Errno.text e)) then told
          else return false

/-- Makes a link that is not symbolic. -/
def link : Tool := withOptions "" 1 fun name o => do
  match o.operands with
  | [] => missingOperand name "operand"
  | [a] => misuse name ("missing operand after " ++ inQuotes a) 1
  | [a, b] =>
    let made ← tryDisk (fun d cwd =>
      match d.lookup cwd (toBytes a), d.freeName cwd (toBytes b) false with
      | .error e, _ | _, .error e => .error e
      | .ok (_, .directory _), _ => .error (.system Errno.notPermitted)
      | .ok (_, entry), .ok loc => .ok (d.put loc entry)) fun e =>
        fault name ("cannot create link " ++ inQuotes b ++ " to " ++ inQuotes a ++ ": " ++
          Errno.text e)
    return if made then 0 else 1
  | _ :: _ :: extra :: _ => extraOperand name extra

/-! ### Modes -/

/-- Whether an argument that begins with a dash is a mode. -/
def isDashedMode (a : Text) : Bool :=
  match a with
  | '-' :: c :: cs =>
    (c :: cs).all fun c => "rwxXstugoa=+-,01234567".toList.contains c
  | _ => false

/-- Changes the mode of an entry, and with `deep` of all that is below it. -/
def changeMode (name : Text) (o : Options) (mode : Text) : Nat → Text → Action Bool
  | 0, _ => return false
  | n + 1, path => do
    match ← leadsTo path with
    | .error e => do
      unless o.has "f" do
        match ← entryAt? path with
        | some (_, .link _) => fault name ("cannot operate on dangling symlink " ++ inQuotes path)
        | _ => withWords name "cannot access" path e
      return false
    | .ok (_, .file _ old) => do
      change path false old
      return true
    | .ok (loc, .directory old) => do
      change path true old
      if o.has "R" then
        if !(← Action.disk).mayList loc then
          unless o.has "f" do withWords name "cannot read directory" path Errno.accessDenied
          return false
        let mut good := true
        for child in (← Action.disk).children loc do
          let below := inside path (ofBytes child)
          match ← entryAt? below with
          | some (_, .link _) => pure ()
          | _ => unless ← changeMode name o mode n below do good := false
        return good
      else return true
    | .ok _ => return true
where
  /-- Changes the mode of what a path leads to. -/
  change (path : Text) (isDirectory : Bool) (old : Mode) : Action Unit := do
    let new := (Mode.changedBy? (← Action.own).mask isDirectory mode old).getD old
    discard (Action.onDisk fun d cwd => d.setMode cwd (toBytes path) new)
    let rights (m : Mode) : Text := digitsIn 8 4 '0' m ++ " (".toList ++ Mode.words m ++ [')']
    if o.has "v" || (o.has "c" && old != new) then
      Action.printLine
        (if old == new then
          "mode of ".toList ++ (inQuotes path).toList ++ " retained as ".toList ++ rights old
        else
          "mode of ".toList ++ (inQuotes path).toList ++ " changed from ".toList ++ rights old ++
            " to ".toList ++ rights new)

/-- Changes the modes of files. -/
def chmod : Tool := fun name args => do
  let dashed := args.find? isDashedMode
  let others := match dashed with
    | some a => args.erase a
    | none => args
  match Options.read (OptionForm.listOfText
      "R/recursive v/verbose c/changes f/silent f/quiet /reference=")
      true others with
  | .error message => misuse name message 1
  | .ok o =>
    let (mode, paths) := match dashed, o.operands with
      | some mode, paths => (some mode, paths)
      | none, mode :: paths => (some mode, paths)
      | none, [] => (none, [])
    match mode, paths with
    | none, _ => missingOperand name "operand"
    | some mode, [] => misuse name ("missing operand after " ++ inQuotes mode) 1
    | some mode, paths =>
      if (Mode.changedBy? 0 false mode 0).isNone then
        misuse name ("invalid mode: " ++ inQuotes mode) 1
      else eachArgument paths (changeMode name o mode treeDepth)

/-! ### Names that are free -/

/-- A template with its last run of marks replaced by letters of a number. -/
def filledTemplate (n : Nat) (template : Text) : Option Text :=
  let behind := (template.reverse.takeWhile (· != 'X')).length
  let front := template.take (template.length - behind)
  let marks := (front.reverse.takeWhile (· == 'X')).length
  if marks < 3 then none
  else
    let letters := (List.range marks).map fun i =>
      let k := (n * 7919 + 104729) / Nat.pow 26 i % 26
      Char.ofNat (97 + k)
    some (front.take (front.length - marks) ++ letters ++ template.drop (template.length - behind))

/-- Makes a file or a directory with a name that is free. -/
def mktemp : Tool :=
  withOptions "d/directory u/dry-run q/quiet p/tmpdir? t /suffix=" 1 fun name o => do
  match o.operands with
  | _ :: _ :: _ => misuse name "too many templates" 1
  | operands =>
    let given := operands.head?
    let template := (given.getD "tmp.XXXXXXXXXX".toList) ++ (o.last? "suffix").getD []
    let dir := (valueOf? (← Action.own) "TMPDIR".toList).getD "/tmp".toList
    let base :=
      match o.last? "p" with
      | some [] => some dir
      | some d => some d
      | none => if given.isNone || o.has "t" then some dir else none
    let d ← Action.disk
    let p ← Action.own
    let path (n : Nat) := (filledTemplate n template).map fun t =>
      match base with
      | some b => inside b t
      | none => t
    match path 0 with
    | none => refuse name ("too few X's in template " ++ inQuotes template) 1
    | some _ =>
      let free := (List.range 10000).find? fun n =>
        match d.resolve .never p.cwd (toBytes ((path (p.id * 100 + n)).getD [])) with
        | .ok (.name parent m _) => (d.get (m :: parent)).isNone
        | _ => true
      let place := (path (p.id * 100 + free.getD 0)).getD []
      let made ←
        if o.has "u" then pure true
        else if o.has "d" then
          tryDisk (fun d cwd => d.makeDirectory cwd (toBytes place) 0o700) fun e =>
            fault name ("failed to create directory via template " ++
              inQuotes (path 0 |>.getD []) ++
              ": " ++ Errno.text e)
        else do
          let made ← tryDisk (fun d cwd => d.putFile cwd (toBytes place) []) fun e =>
            fault name ("failed to create file via template " ++ inQuotes template ++ ": " ++
              Errno.text e)
          if made then discard (Action.onDisk fun d cwd => d.setMode cwd (toBytes place) 0o600)
          pure made
      if made then
        Action.printLine place
        return 0
      else return 1

end Tool
end Shell
end StressBench
