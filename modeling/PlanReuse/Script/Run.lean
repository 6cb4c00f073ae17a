import PlanReuse.Script.Carrier
import PlanReuse.Script.Reader
import PlanReuse.Script.Redirection

/-!
# Running commands

A command takes a process from one state to the next. The parts of a pipe run one after the other, and a
command in the background runs when it is waited for, or else when its process ends. The fuel bounds how
deeply commands are nested and how often they are repeated.
-/

namespace PlanReuse.Script

open Shell

/-! ### Words of a command -/

section Arguments

variable (output : Shell → Command → String × Shell)

/-- Commands whose arguments may assign. -/
def declares (name : String) : Bool := ["export", "readonly", "local", "alias"].contains name

/-- The fields of the words of a command. Where a command declares variables, a word that assigns is one
field. -/
def expandCommand : List Word → Expanding (List String)
  | [] => return []
  | w :: ws => do
    let fs ← expandFields output w
    if !(← get).isGoing then return []
    match fs with
    | [] => expandCommand ws
    | name :: more =>
      if declares name && more.isEmpty then
        let rest ← ws.mapM fun w =>
          match Word.assignment? w with
          | some (n, value) => do return [n ++ "=" ++ (← expandValue output value)]
          | none => expandFields output w
        return name :: rest.flatten
      else if name = "command" ∧ more.isEmpty then return name :: (← expandCommand ws)
      else return fs ++ (← expandAll output ws)

/-- Carries out assignments; with `exported` programs are given the variables. -/
def assignAll (exported : Bool) : List (String × Word) → Expanding Unit
  | [] => return ()
  | (name, w) :: rest => do
    let value ← expandValue output w
    if !(← get).isGoing then return ()
    assignOrFail name value
    if exported then
      modify fun sh => sh.setVariable name { (sh.variableAt? name).getD ⟨none, true, false⟩ with exported := true }
    if (← get).isGoing then assignAll exported rest

end Arguments

/-! ### Commands -/

/-- What a trace shows of a command. -/
def traceText (sh : Shell) (front : String) (assignments : List (String × Word)) (fields : List String) :
    String :=
  let settings := assignments.map fun a => a.1 ++ "=" ++ (sh.value? a.1).getD ""
  front ++ " ".intercalate (settings ++ fields) ++ "\n"

mutual

/-- Runs a command. A command that is `tested` may fail without ending the process. -/
def runCommand : Nat → Bool → Command → Shell → Shell
  | 0, _, _, sh => sh.exitWith 2
  | fuel + 1, tested, c, sh =>
    if sh.has 'n' then sh
    else
    match c with
    | .skip => sh
    | .simple line assignments words redirections =>
      let sh := runSimple fuel tested assignments words redirections { sh with line }
      attend fuel (sh.checkStatus tested)
    | .sequence a b =>
      let sh := runCommand fuel tested a sh
      if sh.isGoing then runCommand fuel tested b sh else sh
    | .both a b =>
      let sh := runCommand fuel true a sh
      if sh.isGoing && sh.status == 0 then runCommand fuel tested b sh else sh
    | .either a b =>
      let sh := runCommand fuel true a sh
      if sh.isGoing && sh.status != 0 then runCommand fuel tested b sh else sh
    | .negate a =>
      let sh := runCommand fuel true a sh
      if sh.isGoing then sh.withStatus (if sh.status = 0 then 1 else 0) else sh
    | .pipe parts => attend fuel ((runPipe fuel tested parts none sh).checkStatus tested)
    | .background a => sh.startJob a
    | .subshell a => attend fuel ((runPart fuel tested a sh).checkStatus tested)
    | .redirected line a redirections =>
      let (openings, sh) := (expandTargets (outputOf fuel) redirections).run { sh with line }
      if !sh.isGoing then sh
      else
        let descriptors := sh.descriptors
        match sh.openAll openings with
        | (false, sh) => { sh with descriptors }
        | (true, sh) => { runCommand fuel tested a sh with descriptors }
    | .choose condition yes no =>
      let sh := runCommand fuel true condition sh
      if !sh.isGoing then sh
      else if sh.status = 0 then runCommand fuel tested yes sh
      else
        match no with
        | .skip => sh.withStatus 0
        | no => runCommand fuel tested no sh
    | .loop whileTrue condition body =>
      let sh := runLoop fuel tested whileTrue condition body 0 { sh with loops := sh.loops + 1 }
      { sh with loops := sh.loops - 1 }
    | .each name words body =>
      let (values, sh) := match words with
        | some ws => (expandAll (outputOf fuel) ws).run sh
        | none => (sh.parameters, sh)
      if !sh.isGoing then sh
      else
        let sh := if values.isEmpty then sh.withStatus 0 else sh
        let sh := runEach fuel tested name body values { sh with loops := sh.loops + 1 }
        { sh with loops := sh.loops - 1 }
    | .select subject branches =>
      let (text, sh) := (expandText (outputOf fuel) subject).run sh
      if sh.isGoing then runSelect fuel tested text branches sh else sh
    | .define name body =>
      { sh with functions := (name, body) :: sh.functions.filter (·.1 ≠ name), status := 0 }

/-- Takes the signals that have been sent to a process. -/
def attend : Nat → Shell → Shell
  | 0, sh => sh
  | fuel + 1, sh =>
    match sh.world.signals.find? (·.1 == sh.number) with
    | none => sh
    | some (target, signal) =>
      let sh := { sh with world.signals := sh.world.signals.erase (target, signal) }
      match if signal = 9 then none else sh.traps.lookup signal with
      | some "" => attend fuel sh
      | some action =>
        let status := sh.status
        let before := sh.trapped
        let sh := runText fuel false action { sh with trapped := some status }
        attend fuel { sh with trapped := before, status := if sh.isGoing then status else sh.status }
      | none => if isDeadly signal then { sh with flow := .killed signal } else attend fuel sh

/-- Runs a command in a part of the process. -/
def runPart : Nat → Bool → Command → Shell → Shell
  | 0, _, _, sh => sh.exitWith 2
  | fuel + 1, tested, c, sh =>
    let (e, child) := endProcess fuel (runCommand fuel tested c sh.part)
    sh.rejoin child e

/-- The output of a command that runs in a part of the process. -/
def outputOf : Nat → Shell → Command → String × Shell
  | 0, sh, _ => ("", sh.exitWith 2)
  | fuel + 1, sh, c =>
    let (i, child) := sh.part.withKept 1
    let (e, child) := endProcess fuel (runCommand fuel false c child)
    (child.kept i, { sh with world := child.world, outputStatus := e.status }.noteEnding e)

/-- Runs the parts of a pipe, each with the output of the one before as its input. -/
def runPipe : Nat → Bool → List Command → Option String → Shell → Shell
  | 0, _, _, _, sh => sh.exitWith 2
  | _ + 1, _, [], _, sh => sh
  | fuel + 1, tested, c :: cs, input, sh =>
    let child := match input with
      | some text => sh.part.withInput text
      | none => sh.part
    match cs with
    | [] =>
      let (e, child) := endProcess fuel (runCommand fuel tested c child)
      sh.rejoin child e
    | _ =>
      let (i, child) := child.withKept 1
      let (e, child) := endProcess fuel (runCommand fuel tested c child)
      runPipe fuel tested cs (some (child.kept i)) (sh.rejoin child e)

/-- Runs the rounds of a loop. -/
def runLoop : Nat → Bool → Bool → Command → Command → Nat → Shell → Shell
  | 0, _, _, _, _, _, sh => sh.exitWith 2
  | fuel + 1, tested, whileTrue, condition, body, status, sh =>
    let sh := runCommand fuel true condition sh
    let skips := !sh.isGoing
    match sh.endRound with
    | (true, sh) =>
      match sh.flow with
      | .go | .leaveLoops _ _ => sh.withStatus status
      | _ => sh
    | (false, sh) =>
      if skips then runLoop fuel tested whileTrue condition body status sh
      else if (sh.status == 0) != whileTrue then sh.withStatus status
      else
        match (runCommand fuel tested body sh).endRound with
        | (true, sh) => sh
        | (false, sh) => runLoop fuel tested whileTrue condition body sh.status sh

/-- Runs the body of a loop for some values. -/
def runEach : Nat → Bool → String → Command → List String → Shell → Shell
  | 0, _, _, _, _, sh => sh.exitWith 2
  | _ + 1, _, _, _, [], sh => sh
  | fuel + 1, tested, name, body, value :: values, sh =>
    if sh.isFixed name then sh.fail (name ++ ": is read only")
    else
      match (runCommand fuel tested body (sh.assign name value)).endRound with
      | (true, sh) => sh
      | (false, sh) => runEach fuel tested name body values sh

/-- Runs the first branch with a pattern that fits. -/
def runSelect : Nat → Bool → String → List (List Word × Command) → Shell → Shell
  | 0, _, _, _, sh => sh.exitWith 2
  | _ + 1, _, _, [], sh => sh.withStatus 0
  | fuel + 1, tested, text, (patterns, body) :: more, sh =>
    let (found, sh) := runPatterns fuel text patterns sh
    if !sh.isGoing then sh
    else if found then
      match body with
      | .skip => sh.withStatus 0
      | body => runCommand fuel tested body sh
    else runSelect fuel tested text more sh

/-- Whether one of some patterns fits a text. -/
def runPatterns : Nat → String → List Word → Shell → Bool × Shell
  | 0, _, _, sh => (false, sh.exitWith 2)
  | _ + 1, _, [], sh => (false, sh)
  | fuel + 1, text, w :: ws, sh =>
    let (p, sh) := (expandPattern (outputOf fuel) w).run sh
    if !sh.isGoing then (false, sh)
    else if fits p text.toList then (true, sh)
    else runPatterns fuel text ws sh

/-- Runs a simple command: expands its words, opens its files, sets its variables and does what its name
says. -/
def runSimple :
    Nat → Bool → List (String × Word) → List Word → List Redirection → Shell → Shell
  | 0, _, _, _, _, sh => sh.exitWith 2
  | fuel + 1, tested, assignments, words, redirections, sh =>
    let (fields, sh) := (expandCommand (outputOf fuel) words).run { sh with outputStatus := 0 }
    if !sh.isGoing then sh
    else
      let name := fields.headD ""
      let special := !fields.isEmpty && Builtin.isSpecial name
      let keeps := special && name == "exec" && fields.length == 1
      let descriptors := sh.descriptors
      let (openings, sh) := (expandTargets (outputOf fuel) redirections).run sh
      if !sh.isGoing then sh
      else
        match sh.openAll openings with
        | (false, sh) =>
          let sh := { sh with descriptors }
          if special then sh.exitWith 2 else sh
        | (true, opened) =>
          let olds := assignments.map fun a => (a.1, opened.variableAt? a.1)
          let stays := fields.isEmpty || special
          let ((), sh) := (assignAll (outputOf fuel) (!stays) assignments).run opened
          let sh := if sh.has 'x' ∧ sh.isGoing then trace fuel descriptors assignments fields sh else sh
          let sh :=
            if !sh.isGoing then sh
            else
              match fields with
              | [] => sh.withStatus sh.outputStatus
              | name :: arguments => runNamed fuel tested true name arguments sh
          let sh := if stays then sh else sh.restore olds.reverse
          if keeps then sh else { sh with descriptors }

/-- Shows a command before it is run, on the stream for errors that was there before its own. -/
def trace : Nat → List (Nat × Nat) → List (String × Word) → List String → Shell → Shell
  | 0, _, _, _, sh => sh
  | fuel + 1, before, assignments, fields, sh =>
    let start := Source.wordOfText ((sh.value? "PS4").getD "")
    let (front, sh) := (expandWord (outputOf fuel) false false start).run sh
    let descriptors := sh.descriptors
    let sh := ({ sh with descriptors := before }.write 2 (traceText sh (textOf front) assignments fields)).2
    { sh with descriptors }

/-- Does what a name says; functions count only if `functions` says so. -/
def runNamed : Nat → Bool → Bool → String → List String → Shell → Shell
  | 0, _, _, _, _, sh => sh.exitWith 2
  | fuel + 1, tested, functions, name, arguments, sh =>
    let refused (special : Bool) (sh : Shell) (text : String) : Shell :=
      let sh := sh.complain (name ++ ": " ++ text)
      if special && functions then sh.exitWith 2 else sh.withStatus 2
    match Builtin.special.lookup name with
    | some b =>
      match b arguments sh with
      | .ok sh => sh
      | .error text => refused true sh text
    | none =>
      match name with
      | "eval" => runText fuel tested (" ".intercalate arguments) sh
      | "." => runFile fuel functions arguments sh
      | "exec" =>
        match arguments with
        | [] => sh.withStatus 0
        | program :: arguments =>
          let (e, child) := runProgram fuel "exec: " program arguments { sh with traps := [] }
          match e with
          | .exited status => { child with traps := [], jobs := [] }.exitWith status
          | .killed signal => { child with traps := [], jobs := [], flow := .killed signal }
      | _ =>
        match if functions then sh.functions.lookup name else none with
        | some body => (runCommand fuel tested body (sh.enterFunction arguments)).leaveFunction sh
        | none =>
          match Builtin.regular.lookup name with
          | some b =>
            match b arguments sh with
            | .ok sh => sh
            | .error text => refused false sh text
          | none =>
            match name with
            | "command" => runUnhidden fuel tested arguments sh
            | "type" => sh.describeAll "type" true arguments
            | "hash" =>
              arguments.foldl (fun sh n =>
                if n.startsWith "-" ∨ (sh.programPath? n).isSome then sh
                else (sh.complain ("hash: " ++ n ++ ": not found")).withStatus 1) (sh.withStatus 0)
            | "wait" => waitFor fuel arguments sh
            | _ =>
              let sh := if name = "sleep" then runJobs fuel sh.jobs sh else sh
              let (e, child) := runProgram fuel "" name arguments sh
              sh.rejoin child e

/-- Runs a command that no function hides, or describes commands. -/
def runUnhidden : Nat → Bool → List String → Shell → Shell
  | 0, _, _, sh => sh.exitWith 2
  | fuel + 1, tested, arguments, sh =>
    match arguments with
    | [] => sh.withStatus 0
    | "-v" :: names => sh.describeAll "command" false names
    | "-V" :: names => sh.describeAll "command" true names
    | "-p" :: rest | "--" :: rest => runUnhidden fuel tested rest sh
    | name :: rest => runNamed fuel tested false name rest sh

/-- Runs the script in a file in the process itself. -/
def runFile : Nat → Bool → List String → Shell → Shell
  | 0, _, _, sh => sh.exitWith 2
  | fuel + 1, ends, arguments, sh =>
    let refused (text : String) : Shell :=
      let sh := sh.complain (".: " ++ text)
      if ends then sh.exitWith 2 else sh.withStatus 2
    match arguments with
    | [] => sh.withStatus 0
    | name :: _ =>
      let path? :=
        if name.contains '/' then some name
        else (sh.programFolders.map fun folder => Tool.inside folder name).find? fun p =>
          (sh.world.disk.readFile sh.folder p).toBool
      match path? with
      | none => refused (name ++ ": not found")
      | some path =>
        match sh.world.disk.readFile sh.folder path with
        | .error .notFound | .error .notDirectory => refused ("cannot open " ++ path ++ ": No such file")
        | .error fault => refused ("cannot open " ++ path ++ ": " ++ fault.message)
        | .ok c =>
          let sh := runText fuel false c.text sh
          { sh with flow := if sh.flow = .leaveFunction then .go else sh.flow }

/-- Runs the commands that a text writes. -/
def runText : Nat → Bool → String → Shell → Shell
  | 0, _, _, sh => sh.exitWith 2
  | fuel + 1, tested, text, sh =>
    let line := sh.line
    { runSource fuel tested false (Source.ofText text 1 sh.world.documents) sh with line }

/-- Runs the lines of a script; `ran` says whether a command has been run. -/
def runSource : Nat → Bool → Bool → Source → Shell → Shell
  | 0, _, _, _, sh => sh.exitWith 2
  | fuel + 1, tested, ran, source, sh =>
    match { source with documents := sh.world.documents, aliases := sh.aliases }.readLine with
    | .finished => if ran then sh else sh.withStatus 0
    | .broken => sh.fail "Syntax error"
    | .line c rest =>
      let sh := { sh with world.documents := rest.documents }
      match c with
      | .skip => runSource fuel tested ran rest sh
      | c =>
        let sh := runCommand fuel tested c sh
        if sh.isGoing then runSource fuel tested true rest sh else sh

/-- Ends a process: does what it has left for its end, and runs what is still in the background. -/
def endProcess : Nat → Shell → Ending × Shell
  | 0, sh => (.exited 2, sh)
  | fuel + 1, sh =>
    match sh.flow with
    | .killed signal => (.killed signal, sh)
    | _ =>
      let status := sh.status
      let sh :=
        match sh.traps.lookup 0 with
        | none | some "" => sh
        | some action =>
          let sh := { sh with traps := sh.traps.filter (·.1 ≠ 0), flow := .go, loops := 0, trapped := some status }
          let sh := runText fuel false action sh
          if sh.flow = Flow.exit then sh else { sh with status, flow := if sh.isGoing then Flow.exit else sh.flow }
      match sh.flow with
      | .killed signal => (.killed signal, sh)
      | _ =>
        let status := sh.status % 256
        let sh := runJobs fuel sh.jobs sh
        (.exited status, sh)

/-- Runs the jobs that have not run yet. -/
def runJobs : Nat → List Job → Shell → Shell
  | 0, _, sh => sh
  | _ + 1, [], sh => sh
  | fuel + 1, j :: js, sh =>
    match (sh.jobs.find? (·.number == j.number)).bind Job.status with
    | some _ => runJobs fuel js sh
    | none =>
      let (e, child) := endProcess fuel (runCommand fuel false j.command (sh.jobProcess j))
      runJobs fuel js ({ sh with world := child.world }.setJobStatus j.number e.status)

/-- Waits for jobs, all of them if none are named. -/
def waitFor : Nat → List String → Shell → Shell
  | 0, _, sh => sh.exitWith 2
  | fuel + 1, arguments, sh =>
    let sh := runJobs fuel sh.jobs sh
    arguments.foldl (fun sh s =>
      match Builtin.job? sh s with
      | some j => sh.withStatus (((sh.jobs.find? (·.number == j.number)).bind Job.status).getD 127)
      | none =>
        if s.startsWith "%" then (sh.complain ("wait: No such job: " ++ s)).withStatus 2
        else if (countOf? s).isNone then (sh.complain ("wait: " ++ illegalNumber s)).withStatus 2
        else sh.withStatus 127) (sh.withStatus 0)

/-- Runs a program in a process of its own. What is said about one that cannot be run begins with
`start`. -/
def runProgram : Nat → String → String → List String → Shell → Ending × Shell
  | 0, _, _, _, sh => (.exited 2, sh)
  | fuel + 1, start, name, arguments, sh =>
    match sh.program name with
    | .tool tool => runToolNamed fuel tool name arguments sh
    | .script path text =>
      match interpreter? text with
      | some (interpreter, options) =>
        match sh.program interpreter with
        | .tool tool => runToolNamed fuel tool interpreter (options ++ path :: arguments) sh
        | _ => (.exited 127, sh.complain (start ++ name ++ ": not found"))
      | none => runShell fuel sh.name (path :: arguments) sh
    | .denied => (.exited 126, sh.complain (start ++ name ++ ": Permission denied"))
    | .missing =>
      let reason := if name.isEmpty then ": Permission denied" else ": not found"
      (.exited 127, sh.complain (start ++ name ++ reason))

/-- Runs a tool of the system. -/
def runToolNamed : Nat → String → String → List String → Shell → Ending × Shell
  | 0, _, _, _, sh => (.exited 2, sh)
  | fuel + 1, tool, name, arguments, sh =>
    if shells.contains tool then runShell fuel name arguments sh
    else if carriers.contains tool then runCarrier fuel tool name arguments sh
    else
      match if tool = "test" ∨ tool = "[" ∨ tool = "kill" then Builtin.regular.lookup tool else none with
      | some b =>
        match b arguments sh with
        | .ok sh => (.exited sh.status, sh)
        | .error text => (.exited (if tool = "kill" then 1 else 2), (sh.write 2 (tool ++ ": " ++ text ++ "\n")).2)
      | none =>
        if tool = "which" then
          let sh := sh.locateAll arguments
          (.exited sh.status, sh)
        else
          let launch (words : List String) (w : Work) : Launch × Work :=
            match words with
            | [] => (.missing, w)
            | first :: rest =>
              let (output, errors, child) := sh.enterWork w
              match child.program first with
              | .missing => (.missing, w)
              | .denied => (.denied, w)
              | _ =>
                let (e, child) := runProgram fuel "" first rest child
                (.ended e, child.leaveWork output errors w)
          match Tool.named? launch tool with
          | some act =>
            let (status, sh) := sh.runTool tool name (act arguments)
            (.exited status, sh)
          | none => (.exited 127, sh.complain (name ++ ": not found"))

/-- Runs a new shell. -/
def runShell : Nat → String → List String → Shell → Ending × Shell
  | 0, _, _, sh => (.exited 2, sh)
  | fuel + 1, name, arguments, sh =>
    match invocation arguments with
    | .error text => (.exited 2, (sh.write 2 (name ++ ": 0: " ++ text ++ "\n")).2)
    | .ok i =>
      let start (name text : String) (parameters : List String) (sh : Shell) : Ending × Shell :=
        let child := sh.newShell name i.options parameters
        endProcess fuel (runSource fuel false false (Source.ofText text 1 child.world.documents) child)
      match i.text with
      | some text => start (i.words.headD name) text i.words.tail sh
      | none =>
        match if i.options.contains 's' then [] else i.words with
        | [] => start name (String.ofList (sh.unread 0)) i.words (sh.consume 0 (sh.unread 0).length)
        | path :: parameters =>
          match sh.world.disk.readFile sh.folder path with
          | .ok c => start path c.text parameters sh
          | .error .notFound | .error .notDirectory =>
            (.exited 2, (sh.write 2 (name ++ ": 0: cannot open " ++ path ++ ": No such file\n")).2)
          | .error fault =>
            (.exited 2, (sh.write 2 (name ++ ": 0: cannot open " ++ path ++ ": " ++ fault.message ++ "\n")).2)

/-- Runs a tool that runs another program. -/
def runCarrier : Nat → String → String → List String → Shell → Ending × Shell
  | 0, _, _, _, sh => (.exited 2, sh)
  | fuel + 1, tool, title, arguments, sh =>
    let fault (status : Nat) (text : String) (sh : Shell) : Ending × Shell := (.exited status, (sh.write 2 text).2)
    let run (words : List String) (sh : Shell) : Ending × Shell :=
      match words with
      | [] => (.exited 125, sh)
      | name :: rest =>
        let sh := if (sh.value? "PATH").isSome then sh
          else sh.setVariable "PATH" ⟨some standardPath, false, false⟩
        match sh.program name with
        | .missing => fault 127 (unableTo tool title name DiskFault.notFound.message) sh
        | .denied => fault 126 (unableTo tool title name DiskFault.denied.message) sh
        | _ => runProgram fuel "" name rest sh
    let runBehind (grammar : Tool.Grammar) : Ending × Shell :=
      match wordsBehind grammar title arguments with
      | .error text => fault 125 text sh
      | .ok words => run words sh
    match tool with
    | "env" =>
      match inEnvironment title arguments sh with
      | .error text => fault 125 text sh
      | .ok ([], child, zeros) =>
        let lines := child.environment.map fun (n, x) => n ++ "=" ++ x ++ (if zeros then "\x00" else "\n")
        let (status, child) := child.putOutput tool title (String.join lines) 0
        (.exited status, child)
      | .ok (words, child, _) => run words child
    | "xargs" => runBatches fuel title arguments sh
    | "awk" | "mawk" =>
      let commands (text : String) (w : Work) : Work :=
        let (output, errors, child) := sh.enterWork w
        let (e, child) := runShell fuel "sh" ["-c", text] child
        let status := match e with
          | .exited n => n
          | .killed signal => 256 + signal
        { child.leaveWork output errors w with status }
      let (status, sh) := sh.runTool tool (Tool.bareName title) (Scan.awk commands arguments)
      (.exited status, sh)
    | "timeout" =>
      match deadlineOf title arguments with
      | .error text => fault 125 text sh
      | .ok d =>
        let (e, child) := run d.words sh
        let start := sh.world.disk.clock
        match d.nanoseconds.filter fun n => start + n < child.world.disk.clock with
        | none => (e, child)
        | some n =>
          let child := child.setDisk { child.world.disk with clock := start + n }
          (if d.signal = 9 then .killed 9 else .exited (if d.keepsStatus then 128 + d.signal else 124), child)
    | "nice" =>
      if arguments.isEmpty then
        let (status, sh) := sh.putOutput tool title "0\n" 0
        (.exited status, sh)
      else
        match urgentWords title arguments with
        | .error text => fault 125 text sh
        | .ok words => run words sh
    | "flock" =>
      match lockedWords title arguments with
      | .error text => fault 64 text sh
      | .ok (file, words) =>
        let made := sh.world.disk.openFile sh.folder file (0o666 &&& (0o777 - sh.mask))
        match if words.isEmpty then none else some made with
        | none => (.exited 0, sh)
        | some (.error f) => fault 66 (title ++ ": cannot open lock file " ++ file ++ ": " ++ f.message ++ "\n") sh
        | some (.ok (_, d)) => run words (sh.setDisk d)
    | "stdbuf" => runBehind ⟨"", "ioe", "", [("input", 'i'), ("output", 'o'), ("error", 'e')]⟩
    | "setsid" => runBehind ⟨"cfw", "", "", [("ctty", 'c'), ("fork", 'f'), ("wait", 'w')]⟩
    | "ionice" => runBehind ⟨"t", "cn", "", [("class", 'c'), ("classdata", 'n'), ("ignore", 't')]⟩
    | _ => runBehind ⟨"", "", "", []⟩

/-- Runs a program on the words of the input, some at a time. -/
def runBatches : Nat → String → List String → Shell → Ending × Shell
  | 0, _, _, sh => (.exited 2, sh)
  | fuel + 1, title, arguments, sh =>
    let say (sh : Shell) (text : String) : Shell := (sh.write 2 (title ++ ": " ++ text ++ "\n")).2
    match Batches.ofArguments arguments with
    | .error (text, helps) =>
      (.exited 1, (sh.write 2 (if helps then misuseOf title text else title ++ ": " ++ text ++ "\n")).2)
    | .ok b =>
      let sh := b.warnings.foldl say sh
      let input := sh.unread 0
      let (found, start) : Except DiskFault String × Shell := match b.file with
        | none => (.ok (String.ofList input), (sh.consume 0 input.length).withoutInput)
        | some "-" => (.ok (String.ofList input), (sh.consume 0 input.length).withoutInput)
        | some name => ((sh.world.disk.readFile sh.folder name).map Content.text, sh)
      match found with
      | .error fault => (.exited 1, say sh ("Cannot open input file '" ++ b.file.getD "" ++ "': " ++ fault.message))
      | .ok text =>
        let (commands, problem) := b.commands text.toList
        let (status, child) := runEachBatch fuel title b.tells commands 0 start
        let child := { child with descriptors := sh.descriptors }
        match problem.filter fun _ => status < 124 with
        | some text => (.exited 1, say child text)
        | none => (.exited status, child)

/-- Runs programs in turn, each of which is shown before if `tells` says so; a failure shows in the status. -/
def runEachBatch : Nat → String → Bool → List (List String) → Nat → Shell → Nat × Shell
  | 0, _, _, _, status, sh => (status, sh)
  | _ + 1, _, _, [], status, sh => (status, sh)
  | fuel + 1, title, tells, c :: cs, status, sh =>
    match c with
    | [] => runEachBatch fuel title tells cs status sh
    | name :: rest =>
      let sh := if tells then (sh.write 2 (Batches.shown c)).2 else sh
      let stop (n : Nat) (text : String) (sh : Shell) : Nat × Shell :=
        (n, (sh.write 2 (title ++ ": " ++ name ++ ": " ++ text ++ "\n")).2)
      match sh.program name with
      | .missing => stop 127 DiskFault.notFound.message sh
      | .denied => stop 126 DiskFault.denied.message sh
      | _ =>
        match runProgram fuel "" name rest sh with
        | (.exited 0, child) => runEachBatch fuel title tells cs status { sh with world := child.world }
        | (.exited 255, child) => stop 124 "exited with status 255; aborting" { sh with world := child.world }
        | (.exited _, child) => runEachBatch fuel title tells cs 123 { sh with world := child.world }
        | (.killed n, child) => stop 125 ("terminated by signal " ++ toString n) { sh with world := child.world }

end

end PlanReuse.Script
