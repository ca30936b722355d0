import RunFilter.Command.Check

/-!
# Arguments

The command line has three commands. Options may stand before or behind the query, short ones can
be written together, and a value stands behind its option, behind an equals sign, or directly
behind a short option. After `--` nothing is an option. No option may be given twice.
-/

set_option autoImplicit false

namespace RunFilter.Command

/-- What the program is asked to do. -/
inductive Invocation where
  /-- Check a query; without one in the arguments the query is read from the input. -/
  | check (query : Option String) (options : CheckOptions) (pretty : Bool)
  | docs
  | doc (category : String)
  | version
  | help
  deriving DecidableEq, Repr

/-- The arguments are none that the program knows. -/
structure UsageError where
  deriving DecidableEq, Repr

/-- The arguments of `check` that have been read. -/
structure CheckArguments where
  query : Option String
  config : Option String
  dialect : Option String
  select : Bool
  pretty : Bool
  syntaxOnly : Bool

namespace CheckArguments

/-- Nothing given. -/
def none : CheckArguments := ⟨.none, .none, .none, false, false, false⟩

/-- The invocation that the arguments ask for. -/
def invocation (a : CheckArguments) : Invocation :=
  .check a.query
    { query := "", settingsPath := a.config, dialect := a.dialect, select := a.select,
      readOnly := a.syntaxOnly } a.pretty

/-- One more argument that is no option: the query. -/
def positional (a : CheckArguments) (s : String) : Except UsageError CheckArguments :=
  if a.query.isSome then .error {} else .ok { a with query := some s }

/-- The options without a value. -/
inductive Switch where
  | select
  | pretty
  | syntaxOnly

/-- The options with a value. -/
inductive Setting where
  | config
  | dialect

/-- A switch, which may be given once. -/
def turnOn (a : CheckArguments) : Switch → Except UsageError CheckArguments
  | .select => if a.select then .error {} else .ok { a with select := true }
  | .pretty => if a.pretty then .error {} else .ok { a with pretty := true }
  | .syntaxOnly => if a.syntaxOnly then .error {} else .ok { a with syntaxOnly := true }

/-- The value of an option, which may be given once; a path is not empty. -/
def set (a : CheckArguments) (value : String) : Setting → Except UsageError CheckArguments
  | .config =>
    if a.config.isSome || value.isEmpty then .error {} else .ok { a with config := some value }
  | .dialect => if a.dialect.isSome then .error {} else .ok { a with dialect := some value }

end CheckArguments

/-- What a short option is. -/
inductive Short where
  | switch (s : CheckArguments.Switch)
  | setting (s : CheckArguments.Setting)
  | help

/-- The short options. -/
def short? : Char → Option Short
  | 's' => some (.switch .select)
  | 'p' => some (.switch .pretty)
  | 'c' => some (.setting .config)
  | 'd' => some (.setting .dialect)
  | 'h' => some .help
  | _ => none

/-- The long options. -/
def long? : String → Option Short
  | "select" => some (.switch .select)
  | "pretty" => some (.switch .pretty)
  | "syntax-only" => some (.switch .syntaxOnly)
  | "config" => some (.setting .config)
  | "dialect" => some (.setting .dialect)
  | "help" => some .help
  | _ => none

/-- The form of an argument. -/
inductive Form where
  /-- `--`: no options follow. -/
  | separator
  /-- `--name` or `--name=value`. -/
  | long (name : String) (value : Option String)
  /-- `-abc`. -/
  | short (letters : List Char)
  | plain

/-- The form of an argument; a lone minus sign is plain. -/
def formOf (s : String) : Form :=
  match s.toList with
  | ['-', '-'] => .separator
  | '-' :: '-' :: cs =>
    let name := String.ofList (cs.takeWhile (· != '='))
    match cs.dropWhile (· != '=') with
    | [] => .long name none
    | _ :: value => .long name (some (String.ofList value))
  | '-' :: c :: cs => .short (c :: cs)
  | _ => .plain

/-- What a list of short options comes to: the arguments with their switches, perhaps an option that
still needs its value, or the wish for help. -/
inductive Cluster where
  | done (a : CheckArguments)
  | waiting (a : CheckArguments) (setting : CheckArguments.Setting)
  | help

/-- A list of short options; what follows one with a value is the value. -/
def cluster (a : CheckArguments) : List Char → Except UsageError Cluster
  | [] => .ok (.done a)
  | c :: cs =>
    match short? c with
    | none => .error {}
    | some .help => .ok .help
    | some (.switch s) => do cluster (← a.turnOn s) cs
    | some (.setting s) =>
      match cs with
      | [] => .ok (.waiting a s)
      | '=' :: value => do pure (.done (← a.set (String.ofList value) s))
      | value => do pure (.done (← a.set (String.ofList value) s))

/-- **The arguments of `check`.** An option that waits for its value takes the next argument, which
must not look like an option. -/
def checkArguments (a : CheckArguments) (waiting : Option CheckArguments.Setting) :
    List String → Except UsageError Invocation
  | [] => if waiting.isSome then .error {} else .ok a.invocation
  | s :: rest =>
    match formOf s, waiting with
    | .plain, some setting => do checkArguments (← a.set s setting) none rest
    | _, some _ => .error {}
    | .plain, none => do checkArguments (← a.positional s) none rest
    | .separator, none => do pure (← rest.foldlM CheckArguments.positional a).invocation
    | .long name value, none =>
      match long? name, value with
      | some .help, none => .ok .help
      | some (.switch s), none => do checkArguments (← a.turnOn s) none rest
      | some (.setting s), none => checkArguments a (some s) rest
      | some (.setting s), some value => do checkArguments (← a.set value s) none rest
      | _, _ => .error {}
    | .short letters, none => do
      match ← cluster a letters with
      | .help => pure .help
      | .done a => checkArguments a none rest
      | .waiting a s => checkArguments a (some s) rest

/-- The arguments of a command without options of its own, at most `room` of them; nothing if help
is asked for. -/
def plainArguments : Nat → List String → Except UsageError (Option (List String))
  | _, [] => .ok (some [])
  | room, s :: rest =>
    match formOf s with
    | .separator => if rest.length ≤ room then .ok (some rest) else .error {}
    | .plain =>
      match room with
      | 0 => .error {}
      | room + 1 => do pure ((← plainArguments room rest).map (s :: ·))
    | .long "help" none => .ok none
    | .short ('h' :: _) => .ok none
    | _ => .error {}

/-- **The invocation that the arguments of the program ask for.** -/
def Invocation.ofArguments : List String → Except UsageError Invocation
  | "check" :: rest => checkArguments .none none rest
  | "docs" :: rest => do
    match ← plainArguments 0 rest with
    | some _ => pure .docs
    | none => pure .help
  | "doc" :: rest => do
    match ← plainArguments 1 rest with
    | some [category] => pure (.doc category)
    | some _ => throw {}
    | none => pure .help
  | "help" :: _ => .ok .help
  | s :: _ =>
    match formOf s with
    | .long "version" none => .ok .version
    | .short ('V' :: _) => .ok .version
    | .long "help" none => .ok .help
    | .short ('h' :: _) => .ok .help
    | _ => .error {}
  | [] => .error {}

end RunFilter.Command
