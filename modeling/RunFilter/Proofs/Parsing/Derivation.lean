import RunFilter.Filter.Grammar

/-!
# The grammar of filters

The grammar as relations between tokens and what they are written for. `Expression ts f n` says
that `ts` derive the filter `f` with groups and `not` nested at most `n` deep, counted through
arguments as well. Filters are derived without places (`Filter.bare`), which tokens do not have.

The relations are declarative: they say neither in which order alternatives are tried nor how far a
part reaches. That the reader finds every derivation, and only these, is proved where it is run.
-/

set_option autoImplicit false

namespace RunFilter

mutual
/-- **A filter without the places of its parts.** -/
def Filter.bare : Filter → Filter
  | .literal value => .literal value
  | .list values => .list values
  | .attribute path => .attribute { path with offset := 0 }
  | .comparison left op right _ => .comparison left.bare op right.bare 0
  | .boolean op operands => .boolean op (bareAll operands)
  | .call function arguments _ => .call function (bareAll arguments) 0
/-- Filters without the places of their parts. -/
def Filter.bareAll : List Filter → List Filter
  | [] => []
  | f :: fs => f.bare :: Filter.bareAll fs
end

theorem Filter.bareAll_eq_map (fs : List Filter) : bareAll fs = fs.map bare := by
  induction fs with
  | nil => rfl
  | cons f fs ih => rw [bareAll, List.map_cons, ih]

namespace Grammar

/-! ## Lists -/

section

variable {α : Type}

/-- **Elements up to a closing symbol**: `(element ("," element)* ","?)? close`. -/
inductive Elements (close : Symbol) (element : List Token → α → Nat → Prop) :
    List Token → List α → Nat → Prop
  | none {n : Nat} : Elements close element [.symbol close] [] n
  | last {n : Nat} {ts : List Token} {x : α} (h : element ts x n) :
      Elements close element (ts ++ [.symbol close]) [x] n
  | comma {n : Nat} {ts us : List Token} {x : α} {xs : List α} (h : element ts x n)
      (more : Elements close element us xs n) :
      Elements close element (ts ++ .symbol .comma :: us) (x :: xs) n

/-- **Parts with a word between them**: `part (word part)*`. -/
inductive Separated (word : Symbol) (part : List Token → α → Nat → Prop) :
    List Token → List α → Nat → Prop
  | one {n : Nat} {ts : List Token} {x : α} (h : part ts x n) : Separated word part ts [x] n
  | more {n : Nat} {ts us : List Token} {x : α} {xs : List α} (h : part ts x n)
      (more : Separated word part us xs n) :
      Separated word part (ts ++ .symbol word :: us) (x :: xs) n

end

/-! ## Attributes -/

/-- A constant. -/
inductive Constant : List Token → Value → Nat → Prop
  | of {n : Nat} (value : Value) : Constant [.literal value] value n

/-- One key of a context and its text: `STRING ":" STRING`. -/
inductive ContextEntry : List Token → String × String → Nat → Prop
  | of {n : Nat} (key value : String) :
      ContextEntry [.literal (.text key), .symbol .colon, .literal (.text value)] (key, value) n

/-- **A context**: entries in braces; of two texts under one key the later counts. -/
inductive Context : List Token → Dictionary → Prop
  | of {n : Nat} {ts : List Token} {entries : List (String × String)}
      (h : Elements .rightBrace ContextEntry ts entries n) :
      Context (.symbol .leftBrace :: ts) (.ofList entries)

/-- What may follow the comma behind the name of a subscript: `(context ","?)?`. -/
inductive ContextPart : List Token → Option Dictionary → Prop
  | none : ContextPart [] none
  | some {ts : List Token} {d : Dictionary} (h : Context ts d) : ContextPart ts (some d)
  | comma {ts : List Token} {d : Dictionary} (h : Context ts d) :
      ContextPart (ts ++ [.symbol .comma]) (some d)

/-- **A subscript**: `"[" STRING ("," (context ","?)?)? "]"`. -/
inductive Bracketed : List Token → Subscript → Prop
  | name (s : String) :
      Bracketed [.symbol .leftBracket, .literal (.text s), .symbol .rightBracket] ⟨s, none⟩
  | context (s : String) {ts : List Token} {found : Option Dictionary} (h : ContextPart ts found) :
      Bracketed (.symbol .leftBracket :: .literal (.text s) :: .symbol .comma ::
        (ts ++ [.symbol .rightBracket])) ⟨s, found⟩

/-- A subscript or none. -/
inductive Subscripted : List Token → Option Subscript → Prop
  | none : Subscripted [] none
  | some {ts : List Token} {s : Subscript} (h : Bracketed ts s) : Subscripted ts (some s)

/-- A member behind a dot, or none. -/
inductive Membered : List Token → Option String → Prop
  | none : Membered [] none
  | some (name : String) : Membered [.symbol .dot, .name name] (some name)

/-- **An attribute**: `ID "." ID subscript? ("." ID)?`, and the first name is not `re`. -/
inductive Path : List Token → AttributePath → Prop
  | of {entity field : String} {ts us : List Token} {subscript : Option Subscript}
      {member : Option String} (entity_ne : entity ≠ "re") (h : Subscripted ts subscript)
      (h' : Membered us member) :
      Path (.name entity :: .symbol .dot :: .name field :: (ts ++ us))
        { entity, field, subscript, member, offset := 0 }

/-! ## Filters -/

/-- The spellings of an operator. -/
def spellings : Operator → List (List Symbol)
  | .equal => [[.equal], [.isWord]]
  | .notEqual => [[.notEqual], [.isWord, .notWord]]
  | .less => [[.less]]
  | .greater => [[.greater]]
  | .lessEqual => [[.lessEqual]]
  | .greaterEqual => [[.greaterEqual]]
  | .among => [[.inWord]]
  | .notAmong => [[.notWord, .inWord]]

/-- The methods of attributes. -/
def methods : List (String × Function) := [("startswith", .startsWith), ("endswith", .endsWith)]

/-- The functions of `re`. -/
def patternFunctions : List (String × Function) :=
  [("match", .patternAtStart), ("search", .patternAnywhere)]

/-- The filter of a level: one operand adds no node, several are one node. -/
def node (op : Connective) : List Filter → Filter
  | [only] => only
  | several => .boolean op several

mutual
/-- **A filter**: `and ("or" and)*`. -/
inductive Expression : List Token → Filter → Nat → Prop
  | of {n : Nat} {ts : List Token} {fs : List Filter}
      (h : Separated .orWord Conjunction ts fs n) : Expression ts (node .or fs) n
/-- An operand of `or`: `not ("and" not)*`. -/
inductive Conjunction : List Token → Filter → Nat → Prop
  | of {n : Nat} {ts : List Token} {fs : List Filter}
      (h : Separated .andWord Negation ts fs n) : Conjunction ts (node .and fs) n
/-- An operand of `and`: `"not" not | comparison`. -/
inductive Negation : List Token → Filter → Nat → Prop
  | not {n : Nat} {ts : List Token} {f : Filter} (h : Negation ts f n) :
      Negation (.symbol .notWord :: ts) (.boolean .not [f]) (n + 1)
  | comparison {n : Nat} {ts : List Token} {f : Filter} (h : Comparison ts f n) : Negation ts f n
/-- An operand of `not`: `operand (operator operand)*`; `a < b < c` is `a < b and b < c`. -/
inductive Comparison : List Token → Filter → Nat → Prop
  | operand {n : Nat} {ts : List Token} {f : Filter} (h : Operand ts f n) : Comparison ts f n
  | chain {n : Nat} {ts us : List Token} {f : Filter} {fs : List Filter} (h : Operand ts f n)
      (more : Chain f us fs n) (ne : fs ≠ []) : Comparison (ts ++ us) (node .and fs) n
/-- The comparisons of a chain behind its operand `left`. -/
inductive Chain : Filter → List Token → List Filter → Nat → Prop
  | nil {n : Nat} {left : Filter} : Chain left [] [] n
  | cons {n : Nat} {left right : Filter} {op : Operator} {spelling : List Symbol}
      {ts us : List Token} {fs : List Filter} (spelt : spelling ∈ spellings op)
      (h : Operand ts right n) (more : Chain right us fs n) :
      Chain left (spelling.map .symbol ++ (ts ++ us)) (.comparison left op right 0 :: fs) n
/-- **An operand**: a constant, a list of constants, a group, an attribute or a call. -/
inductive Operand : List Token → Filter → Nat → Prop
  | constant {n : Nat} {ts : List Token} {value : Value} (h : Constant ts value n) :
      Operand ts (.literal value) n
  | list {n : Nat} {ts : List Token} {values : List Value}
      (h : Elements .rightBracket Constant ts values n) :
      Operand (.symbol .leftBracket :: ts) (.list values) n
  | group {n : Nat} {ts : List Token} {f : Filter} (h : Expression ts f n) :
      Operand (.symbol .leftParen :: (ts ++ [.symbol .rightParen])) f (n + 1)
  | path {n : Nat} {ts : List Token} {path : AttributePath} (h : Path ts path) :
      Operand ts (.attribute path) n
  | method {n : Nat} {ts us : List Token} {path : AttributePath} {name : String}
      {function : Function} {args : List Filter} (h : Path ts path)
      (known : (name, function) ∈ methods) (h' : Elements .rightParen Expression us args n) :
      Operand (ts ++ .symbol .dot :: .name name :: .symbol .leftParen :: us)
        (.call function (.attribute path :: args) 0) n
  | pattern {n : Nat} {us : List Token} {name : String} {function : Function} {args : List Filter}
      (known : (name, function) ∈ patternFunctions)
      (h' : Elements .rightParen Expression us args n) :
      Operand (.name "re" :: .symbol .dot :: .name name :: .symbol .leftParen :: us)
        (.call function args 0) n
end

/-! ## First tokens -/

/-- A token that an operand begins with. -/
def startsOperand : Token → Bool
  | .literal _ | .name _ | .symbol .leftBracket | .symbol .leftParen => true
  | _ => false

/-- A token that a filter begins with. -/
def startsFilter (t : Token) : Bool := startsOperand t || t = .symbol .notWord

theorem Path.starts {ts : List Token} {path : AttributePath} (h : Path ts path) :
    ∃ s us, ts = .name s :: us := by
  cases h
  exact ⟨_, _, rfl⟩

theorem Operand.starts {ts : List Token} {f : Filter} {n : Nat} (h : Operand ts f n) :
    ∃ t us, ts = t :: us ∧ startsOperand t = true := by
  cases h with
  | constant h =>
    cases h
    exact ⟨_, _, rfl, rfl⟩
  | list => exact ⟨_, _, rfl, rfl⟩
  | group => exact ⟨_, _, rfl, rfl⟩
  | path h =>
    obtain ⟨s, us, rfl⟩ := h.starts
    exact ⟨_, _, rfl, rfl⟩
  | method h =>
    obtain ⟨s, us, rfl⟩ := h.starts
    exact ⟨_, _, rfl, rfl⟩
  | pattern => exact ⟨_, _, rfl, rfl⟩

theorem Comparison.starts {ts : List Token} {f : Filter} {n : Nat} (h : Comparison ts f n) :
    ∃ t us, ts = t :: us ∧ startsOperand t = true := by
  cases h with
  | operand h => exact h.starts
  | chain h =>
    obtain ⟨t, us, rfl, starts⟩ := h.starts
    exact ⟨_, _, rfl, starts⟩

theorem Negation.starts {ts : List Token} {f : Filter} {n : Nat} (h : Negation ts f n) :
    ∃ t us, ts = t :: us ∧ startsFilter t = true := by
  cases h with
  | not => exact ⟨_, _, rfl, rfl⟩
  | comparison h =>
    obtain ⟨t, us, rfl, starts⟩ := h.starts
    exact ⟨t, us, rfl, by rw [startsFilter, starts, Bool.true_or]⟩

theorem Separated.starts {α : Type} {word : Symbol} {part : List Token → α → Nat → Prop}
    (starts : ∀ {ts x n}, part ts x n → ∃ t us, ts = t :: us ∧ startsFilter t = true)
    {ts : List Token} {xs : List α} {n : Nat} (h : Separated word part ts xs n) :
    ∃ t us, ts = t :: us ∧ startsFilter t = true := by
  cases h with
  | one h => exact starts h
  | more h =>
    obtain ⟨t, us, rfl, first⟩ := starts h
    exact ⟨_, _, rfl, first⟩

theorem Conjunction.starts {ts : List Token} {f : Filter} {n : Nat} (h : Conjunction ts f n) :
    ∃ t us, ts = t :: us ∧ startsFilter t = true := by
  cases h with
  | of h => exact h.starts Negation.starts

theorem Expression.starts {ts : List Token} {f : Filter} {n : Nat} (h : Expression ts f n) :
    ∃ t us, ts = t :: us ∧ startsFilter t = true := by
  cases h with
  | of h => exact h.starts Conjunction.starts

end Grammar

end RunFilter
