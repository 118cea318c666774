import RunSweep.Shell.Builtin

/-!
# Running scripts

The evaluation of commands: words are filled in and cut into fields, streams are redirected, and the
first field says what runs. Every function descends in its first argument; a process that would take
more steps is ended from outside.

Other programs, nested shells among them, run in a process of their own that hands back the disk and the
streams. All of this stands for the machine's shell, of which nothing is claimed.
-/

namespace RunSweep.Shell

/-- The leading options of a shell, and the words behind them. -/
def shellOptions : List String → List Char × List String
  | [] => ([], [])
  | "--" :: rest => ([], rest)
  | word :: rest =>
      match optionLetters? word with
      | some (letters, true) =>
          let (more, words) := shellOptions rest
          (letters ++ more, words)
      | _ => ([], word :: rest)

/-- A script that begins. Only variables that were handed on are known to it. -/
def begin (name : String) (params : List String) (strict : Bool) : Act Unit :=
  modify fun p =>
    { p with
      name, params, strict
      vars := p.vars.filter fun (v, _) => p.exported.contains v
      functions := [], locals := [], guarded := false, line := 1, status := 0 }

/-- A fault of a program that could not be started, in the shell's words. -/
def refuse (name : String) (e : HostError) : Act Unit := do
  complain (name ++ ": " ++ openCause "not found" e)
  match e with
  | .errno .noEntry | .errno .notDirectory | .errno .nameTooLong | .errno .linkLoop => finish 127
  | _ => finish 126

mutual

/-- What a piece of a word becomes. -/
def fill : Nat → Piece → Act (List Glyph)
  | 0, _ => throw .killed
  | fuel + 1, ⟨part, quoted⟩ => do
      match part with
      | .text s => return Glyph.ofText s quoted false
      | .param name operator word => fillParameter fuel quoted name operator word
      | .length name => do
          let value := ((← get).value? name).getD ""
          return Glyph.ofText (toString value.length) quoted true
      | .command script => do
          let out ← capture (settling fuel (source fuel script))
          modify fun p => { p with filled := p.status }
          return Glyph.ofText (trimOutput out) quoted true
      | .arithmetic expression => do
          let text ← fillText fuel (quotedWordOf expression)
          let p ← get
          match Arithmetic.evalText (fun name => (p.value? name).getD "") text with
          | some (n, assigned) => do
              set (assigned.foldr (fun (name, value) p => p.assign name value) p)
              return Glyph.ofText (toString n) quoted true
          | none => fatal ("arithmetic expression: expecting primary: \"" ++ text ++ "\"")
termination_by structural fuel => fuel

/-- What a parameter becomes, given an operator and a word. -/
def fillParameter : Nat → Bool → String → String → String → Act (List Glyph)
  | 0, _, _, _, _ => throw .killed
  | fuel + 1, quoted, name, operator, word => do
      let p ← get
      let here := parameterGlyphs p name quoted
      let value := (p.value? name).getD ""
      let colon := operator.toList.head? = some ':'
      let present := (p.value? name).isSome && !(colon && value.isEmpty)
      let inner := if quoted then quotedWordOf word else wordOf word
      match operator.toList.getLast? with
      | some '-' =>
          if present then return here
          else return (← fillWord fuel inner).map Glyph.loosen
      | some '+' =>
          if present then return (← fillWord fuel inner).map Glyph.loosen
          else return Glyph.ofText "" quoted true
      | some '=' => do
          if present then return here
          let text ← fillText fuel inner
          modify (·.assign name text)
          return Glyph.ofText text quoted true
      | some '?' => do
          if present then return here
          let text ← fillText fuel inner
          let reason :=
            if text.isEmpty then "parameter not set" ++ (if colon then " or null" else "") else text
          fatal (name ++ ": " ++ reason)
      | some side => do
          let pattern := (← fillWord fuel (wordOf word)).filterMap Glyph.marked?
          let most := operator.length = 2
          return Glyph.ofText (trimMatch (side = '#') most pattern value) quoted true
      | none => return here
termination_by structural fuel => fuel

/-- What a word becomes. -/
def fillWord : Nat → Word → Act (List Glyph)
  | 0, _ => throw .killed
  | fuel + 1, w => do
      return (← w.mapM (fill fuel)).flatten
termination_by structural fuel => fuel

/-- What a word becomes where it is not cut. -/
def fillText : Nat → Word → Act String
  | 0, _ => throw .killed
  | fuel + 1, w => do
      return plainText (← fillWord fuel w)
termination_by structural fuel => fuel

/-- The fields that words become. -/
def fillFields : Nat → List Word → Act (List String)
  | 0, _ => throw .killed
  | fuel + 1, words => do
      let rows ← words.mapM (fillWord fuel)
      let p ← get
      return (rows.flatMap (fields p.separators)).flatMap (matchingPaths p.disk)
termination_by structural fuel => fuel

/-- Redirect streams, one after the other, until one cannot be. -/
def redirectAll : Nat → List Redirect → Act Bool
  | 0, _ => throw .killed
  | fuel + 1, rs => do
      for r in rs do
        let target ← fillText fuel r.target
        if !(← redirectTo r target) then
          finish 2
          return false
      return true
termination_by structural fuel => fuel

/-- **Run a command.** -/
def run : Nat → Cmd → Act Unit
  | 0, _ => throw .killed
  | fuel + 1, c => do
      match c with
      | .skip => pure ()
      | .simple line assignments words => do
          modify fun p => { p with line, filled := 0 }
          runSimple fuel assignments words
          checkStrict
      | .redirected (.simple line [] [w]) rs =>
          if plain? w = some "exec" then
            modify fun p => { p with line }
            if ← redirectAll fuel rs then finish 0 else throw .leave
          else
            withStreams do
              modify fun p => { p with line }
              if ← redirectAll fuel rs then run fuel (.simple line [] [w]) else checkStrict
      | .redirected body rs =>
          withStreams do
            match body with
            | .simple line _ _ => modify fun p => { p with line }
            | _ => pure ()
            if ← redirectAll fuel rs then run fuel body else checkStrict
      | .seq a b => do
          run fuel a
          run fuel b
      | .both a b => do
          guarding (run fuel a)
          if (← get).status = 0 then run fuel b
      | .either a b => do
          guarding (run fuel a)
          if (← get).status ≠ 0 then run fuel b
      | .pipe a b => do
          let out ← capture (settling fuel (run fuel a))
          let outer ← get
          set { outer with input := { contents := out } }
          fork (settling fuel (run fuel b))
          modify fun p => { p with input := outer.input }
          checkStrict
      | .negated body => do
          guarding (run fuel body)
          modify fun p => { p with status := if p.status = 0 then 1 else 0 }
      | .subshell body => do
          fork (settling fuel (run fuel body))
          checkStrict
      | .background body =>
          modify fun p => { p with jobs := p.jobs ++ [body], status := 0 }
      | .ifThen condition body otherwise => do
          guarding (run fuel condition)
          if (← get).status = 0 then run fuel body
          else
            finish 0
            run fuel otherwise
      | .loop whileNot condition body => rounds fuel whileNot condition body 0
      | .forIn name words body => do
          let values ←
            match words with
            | some words => fillFields fuel words
            | none => pure (← get).params
          finish 0
          eachValue fuel name values body
      | .choose subject arms => do
          let cs := (← fillText fuel subject).toList
          finish 0
          for (patterns, body) in arms do
            for pattern in patterns do
              let p := (← fillWord fuel pattern).filterMap Glyph.marked?
              if isMatch p cs then
                run fuel body
                return
      | .define name body =>
          modify fun p =>
            { p with functions := (name, body) :: p.functions.filter (·.1 != name), status := 0 }
termination_by structural fuel => fuel

/-- Do something, and then all that was put off; the status is that of the first part. -/
def settling : Nat → Act Unit → Act Unit
  | 0, _ => throw .killed
  | fuel + 1, body => do
      try body
      catch
        | .killed => throw .killed
        | _ => pure ()
      let p ← get
      set { p with jobs := [] }
      for job in p.jobs do
        fork (settling fuel (run fuel job))
      finish p.status
termination_by structural fuel => fuel

/-- The rounds of a loop; `last` is how the last one ended. -/
def rounds : Nat → Bool → Cmd → Cmd → Nat → Act Unit
  | 0, _, _, _, _ => throw .killed
  | fuel + 1, whileNot, condition, body, last => do
      guarding (run fuel condition)
      if ((← get).status = 0) = whileNot then finish last
      else if ← oneRound (run fuel body) then
        rounds fuel whileNot condition body (← get).status
termination_by structural fuel => fuel

/-- The rounds of a loop over some values. -/
def eachValue : Nat → String → List String → Cmd → Act Unit
  | 0, _, _, _ => throw .killed
  | _ + 1, _, [], _ => pure ()
  | fuel + 1, name, value :: values, body => do
      modify (·.assign name value)
      if ← oneRound (run fuel body) then eachValue fuel name values body
termination_by structural fuel => fuel

/-- Run assignments and words: the first field names what runs. Without any field the assignments are
all there is. -/
def runSimple : Nat → List (String × Word) → List Word → Act Unit
  | 0, _, _ => throw .killed
  | fuel + 1, assignments, words => do
      let args ← fillFields fuel words
      if args.isEmpty then
        for (name, w) in assignments do
          let value ← fillText fuel w
          modify (·.assign name value)
        modify fun p => { p with status := p.filled }
      else
        let values ← assignments.mapM fun (name, w) => do
          return (name, ← fillText fuel w)
        if values.isEmpty then call fuel args else withVariables values (call fuel args)
termination_by structural fuel => fuel

/-- Run a function, a command of the shell itself, or a program. -/
def call : Nat → List String → Act Unit
  | 0, _ => throw .killed
  | _ + 1, [] => finish 0
  | fuel + 1, name :: args => do
      match (← get).functions.lookup name with
      | some body => inFunction args (run fuel body)
      | none => callDirect fuel name args
termination_by structural fuel => fuel

/-- Run a command of the shell itself, or a program. -/
def callDirect : Nat → String → List String → Act Unit
  | 0, _, _ => throw .killed
  | fuel + 1, name, args => do
      match name, args with
      | "eval", _ => source fuel (" ".intercalate args)
      | ".", file :: _ => do
          match (← get).disk.read (pathOf file) with
          | .ok contents => do
              try source fuel (ofBytes contents.toBytes)
              catch
                | .leaveFunction => pure ()
                | leap => throw leap
          | .error e => fatal (".: cannot open " ++ file ++ ": " ++ openCause "No such file" e)
      | "wait", _ => do
          settling fuel (pure ())
          finish 0
      | "exec", [] => finish 0
      | "exec", program :: args => do
          execute fuel program args
          throw .leave
      | "command", "-v" :: program :: _ => do
          let p ← get
          if (builtins.lookup program).isSome || (innerTools.lookup program).isSome then
            say 1 (program ++ "\n")
            finish 0
          else
            match p.disk.locate (pathOf program) with
            | .ok path => do
                say 1 (ofBytes path.bytes ++ "\n")
                finish 0
            | .error _ => finish 127
      | "command", program :: args => callDirect fuel program args
      | _, _ =>
          match builtins.lookup name with
          | some act => act args
          | none =>
              match innerTools.lookup name with
              | some tool => finish (← tool (fun text => complain (name ++ ": " ++ text)) args)
              | none => execute fuel name args
termination_by structural fuel => fuel

/-- Run a program in a process of its own. -/
def execute : Nat → String → List String → Act Unit
  | 0, _, _ => throw .killed
  | fuel + 1, name, args => do
      let d := (← get).disk
      match d.start (pathOf name) (args.map toBytes) with
      | .ok image => fork (runImage fuel name image)
      | .error (.errno .execFormat) =>
          match d.locate (pathOf name) with
          | .ok path => fork (runShell fuel name (ofBytes path.bytes :: args))
          | .error e => refuse name e
      | .error e => refuse name e
termination_by structural fuel => fuel

/-- Run one of the machine's programs, which was called by a name. -/
def runImage : Nat → String → Image → Act Unit
  | 0, _, _ => throw .killed
  | fuel + 1, name, image => do
      let args := image.args.map ofBytes
      let name := (image.interpreter.map fun path => ofBytes path.bytes).getD name
      match image.tool with
      | "sh" | "dash" => runShell fuel name args
      | "env" => runEnv fuel name args
      | _ =>
          match tools.lookup image.tool with
          | some tool => finish (← tool (fun text => say 2 (name ++ ": " ++ text ++ "\n")) args)
          | none => finish 127
termination_by structural fuel => fuel

/-- Run a shell: a script that is given, or one in a file, or what is read. -/
def runShell : Nat → String → List String → Act Unit
  | 0, _, _ => throw .killed
  | fuel + 1, name, args => do
      let (letters, words) := shellOptions args
      let strict := letters.contains 'e'
      match letters.contains 'c', words with
      | true, [] => do
          modify fun p => { p with name, line := 0 }
          fatal "-c requires an argument"
      | true, script :: words => do
          begin (words.headD name) words.tail strict
          runScript fuel script
      | false, [] => do
          begin name [] strict
          let script ← readAll
          runScript fuel (ofBytes script.toBytes)
      | false, file :: params => do
          match (← get).disk.read (pathOf file) with
          | .ok script => do
              begin file params strict
              runScript fuel (ofBytes script.toBytes)
          | .error e => do
              modify fun p => { p with name, line := 0 }
              fatal ("cannot open " ++ file ++ ": " ++ openCause "No such file" e)
termination_by structural fuel => fuel

/-- Run a whole script, then what it has left for its end, and then all that was put off. -/
def runScript : Nat → String → Act Unit
  | 0, _ => throw .killed
  | fuel + 1, script =>
      settling fuel do
        try source fuel script
        catch
          | .killed => throw .killed
          | _ => pure ()
        let p ← get
        match p.atExit with
        | none => pure ()
        | some action => do
            set { p with atExit := none }
            source fuel action
            finish p.status
termination_by structural fuel => fuel

/-- Run a program with further variables, or show those that are handed on. -/
def runEnv : Nat → String → List String → Act Unit
  | 0, _, _ => throw .killed
  | fuel + 1, name, args => do
      match args with
      | [] => do
          let p ← get
          let handed := p.vars.filter fun (v, _) => p.exported.contains v
          say 1 (String.join (handed.map fun (v, value) => v ++ "=" ++ value ++ "\n"))
          finish 0
      | "-i" :: rest => do
          modify fun p => { p with exported := [], vars := [] }
          runEnv fuel name rest
      | word :: rest =>
          match splitAssignment word with
          | (v, some value) => do
              modify fun p => { p.assign v value with exported := v :: p.exported }
              runEnv fuel name rest
          | (program, none) => do
              match (← get).disk.start (pathOf program) (rest.map toBytes) with
              | .ok image => runImage fuel program image
              | .error e => do
                  say 2 (name ++ ": " ++ shown program ++ ": " ++ cause e ++ "\n")
                  finish (if e = .errno .noEntry then 127 else 126)
termination_by structural fuel => fuel

/-- Run the commands of a script. -/
def source : Nat → String → Act Unit
  | 0, _ => throw .killed
  | fuel + 1, script => do
      match parse? script with
      | some .skip => finish 0
      | some c => run fuel c
      | none => fatal "Syntax error: end of file unexpected"
termination_by structural fuel => fuel

end

end RunSweep.Shell
