import BankSwitch.Text.CharClass

/-!
# Arguments

How a list of words is read as options and operands.  A word with a dash in front is an option if it
names one: in full, by a start that fits one long name alone, or as short options written together;
what follows an equals sign, or a short option's letter, is the option's value.  Everything behind
two dashes is an operand.  Operands are handed out in order, as many as fit before each option.
-/

namespace BankSwitch.Arguments

/-- how many operands belong together -/
inductive Arity where
  | one
  | optional
  | many
  /-- one and everything behind it, options included -/
  | command
  deriving DecidableEq

variable {κ : Type}

structure Opt (κ : Type) where
  names : List String
  key : κ
  takesValue : Bool

/-- the options and operands that are understood -/
structure Form (κ : Type) where
  options : List (Opt κ)
  operands : List (κ × Arity)

/-- the text that is written together with the name of an option -/
inductive Attached where
  | nothing
  /-- behind the letter of a short option -/
  | glued (text : List Char)
  /-- behind an equals sign -/
  | assigned (text : List Char)
  deriving DecidableEq

/-- a word, classified -/
inductive Slot (κ : Type) where
  | operand (word : String)
  /-- the two dashes behind which there are no options -/
  | dashes
  | option (word : String) (opt : Opt κ) (attached : Attached)
  /-- an option that is not understood -/
  | stranger (word : String)

namespace Slot

def word : Slot κ → String
  | .operand w => w
  | .dashes => "--"
  | .option w _ _ => w
  | .stranger w => w

def isOption : Slot κ → Bool
  | .option _ _ _ => true
  | .stranger _ => true
  | _ => false

def isDashes : Slot κ → Bool
  | .dashes => true
  | _ => false

end Slot

/-! ## classifying words -/

namespace Form

/-- every name with its option -/
def named (f : Form κ) : List (String × Opt κ) :=
  f.options.flatMap fun o => o.names.map fun n => (n, o)

/-- the option with exactly this name -/
def find? (f : Form κ) (name : String) : Option (Opt κ) :=
  (f.named.find? fun e => e.1 = name).map Prod.snd

end Form

/-- the text before the first equals sign, and what follows the sign -/
def splitValue (w : List Char) : List Char × Attached :=
  match w.dropWhile (· ≠ '=') with
  | [] => (w, .nothing)
  | _ :: value => (w.takeWhile (· ≠ '='), .assigned value)

def isDigits (s : List Char) : Bool := s.all fun c => (CharClass.decimalValue? c).isSome

/-- a dash and a number, with or without a point; a line feed may end it -/
def isNegativeNumber (w : List Char) : Bool :=
  let w := if w.getLast? = some '\n' then w.dropLast else w
  match w with
  | '-' :: r =>
    match r.dropWhile (· ≠ '.') with
    | [] => !r.isEmpty && isDigits r
    | _ :: fraction =>
      isDigits (r.takeWhile (· ≠ '.')) && !fraction.isEmpty && isDigits fraction
  | _ => false

/-- the options that a word may mean, with the text attached to them -/
def candidates (f : Form κ) (w : List Char) : List (Opt κ × Attached) :=
  if "--".toList.isPrefixOf w then
    let (start, value) := splitValue w
    (f.named.filter fun e => start.isPrefixOf e.1.toList).map fun e => (e.2, value)
  else
    f.named.filterMap fun e =>
      if e.1.toList = w.take 2 then some (e.2, .glued (w.drop 2))
      else if w.isPrefixOf e.1.toList then some (e.2, .nothing)
      else none

/-- a word that is not an option by its full name; nothing if it may mean several -/
def classifyPartial (f : Form κ) (word : String) : Option (Slot κ) :=
  match candidates f word.toList with
  | [(o, attached)] => some (.option word o attached)
  | [] =>
    if isNegativeNumber word.toList || word.toList.contains ' ' then some (.operand word)
    else some (.stranger word)
  | _ => none

/-- a word before any two dashes; nothing if it may mean several options -/
def classify (f : Form κ) (word : String) : Option (Slot κ) :=
  match word.toList with
  | '-' :: c :: r =>
    match f.find? word with
    | some o => some (.option word o .nothing)
    | none =>
      match splitValue ('-' :: c :: r) with
      | (_, .nothing) => classifyPartial f word
      | (front, attached) =>
        match f.find? (String.ofList front) with
        | some o => some (.option word o attached)
        | none => classifyPartial f word
  | _ => some (.operand word)

/-- all words; nothing if one may mean several options -/
def slots (f : Form κ) : List String → Option (List (Slot κ))
  | [] => some []
  | w :: ws =>
    if w = "--" then some (.dashes :: ws.map .operand)
    else do
      let s ← classify f w
      let ss ← slots f ws
      return s :: ss

/-! ## handing out words -/

/-- options and operands with their values, in the order of the words, up to the first fault -/
structure Understood (κ : Type) where
  found : List (κ × List String)
  isFaulty : Bool

def Understood.add (found : List (κ × List String)) (u : Understood κ) : Understood κ :=
  ⟨found ++ u.found, u.isFaulty⟩

def Understood.blame (u : Understood κ) : Understood κ := { u with isFaulty := true }

/-- the operands among words that belong together: the first two dashes are none -/
def valuesOf (words : List String) : List String := words.erase "--"

/-- how many slots an operand takes from the front -/
def Arity.take (a : Arity) (s : List (Slot κ)) : Option Nat :=
  let before := (s.takeWhile Slot.isDashes).length
  match s.drop before with
  | .operand _ :: r =>
    match a with
    | .one | .optional => some (before + 1 + (r.takeWhile Slot.isDashes).length)
    | .many => some (before + 1 + (r.takeWhile fun x => !x.isOption).length)
    | .command => some s.length
  | _ => if a = .optional then some before else none

/-- hands out operands from the front as long as they fit: what was handed out, which operands are
left, and how many slots were taken -/
def takeOperands : List (κ × Arity) → List (Slot κ) →
    List (κ × List String) × List (κ × Arity) × Nat
  | [], _ => ([], [], 0)
  | (k, a) :: os, s =>
    match a.take s with
    | none => ([], (k, a) :: os, 0)
    | some n =>
      let words := (s.take n).map Slot.word
      let values := if a = .command then words else valuesOf words
      let (found, left, m) := takeOperands os (s.drop n)
      ((k, values) :: found, left, n + m)

/-- what an option was found to mean -/
structure Taken (κ : Type) where
  found : List (κ × List String)
  /-- how many of the slots behind it it takes -/
  count : Nat
  /-- letters were left that mean nothing -/
  hasStranger : Bool

/-- an option with nothing attached -/
def takeBare (o : Opt κ) (rest : List (Slot κ)) : Option (Taken κ) :=
  if o.takesValue then
    match rest with
    | .operand w :: _ => some ⟨[(o.key, [w])], 1, false⟩
    | _ => none
  else some ⟨[(o.key, [])], 0, false⟩

/-- an option with a value behind an equals sign -/
def takeAssigned (o : Opt κ) (value : List Char) : Option (Taken κ) :=
  if o.takesValue then some ⟨[(o.key, [String.ofList value])], 0, false⟩ else none

/-- a short option and the letters behind it: its value, or further short options -/
def takeShort (f : Form κ) (rest : List (Slot κ)) (o : Opt κ) : List Char → Option (Taken κ)
  | [] => takeBare o rest
  | c :: cs =>
    if o.takesValue then takeAssigned o (c :: cs)
    else if c = '-' then none
    else match f.find? (String.ofList ['-', c]) with
      | none => some ⟨[(o.key, [])], 0, true⟩
      | some next => do
        let more ← match cs with
          | '=' :: value => takeAssigned next value
          | cs => takeShort f rest next cs
        return { more with found := (o.key, []) :: more.found }

def takeOption (f : Form κ) (o : Opt κ) (attached : Attached) (rest : List (Slot κ)) :
    Option (Taken κ) :=
  match attached with
  | .nothing => takeBare o rest
  | .assigned value => takeAssigned o value
  | .glued letters => takeShort f rest o letters

/-- an operand that must be there -/
def isRequired (o : κ × Arity) : Bool := o.2 = .one || o.2 = .many

/-- reads slots while operands are to be handed out -/
def readSlots (f : Form κ) (operands : List (κ × Arity)) (s : List (Slot κ)) : Understood κ :=
  match s with
  | [] => ⟨[], operands.any isRequired⟩
  | .stranger _ :: r => (readSlots f operands r).blame
  | .option _ o attached :: r =>
    match takeOption f o attached r with
    | none => ⟨[], true⟩
    | some t =>
      let u := (readSlots f operands (r.drop t.count)).add t.found
      if t.hasStranger then u.blame else u
  | x :: r =>
    let (found, left, n) := takeOperands operands (x :: r)
    if 0 < n then (readSlots f left (r.drop (n - 1))).add found
    else ((readSlots f left (r.dropWhile fun y => !y.isOption)).add found).blame
termination_by s.length
decreasing_by
  all_goals simp only [List.length_cons, List.length_drop]
  all_goals first
    | omega
    | exact Nat.lt_succ_of_le (List.dropWhile_sublist _).length_le

/-- what a list of words means -/
def Form.read (f : Form κ) (words : List String) : Understood κ :=
  match slots f words with
  | none => ⟨[], true⟩
  | some s => readSlots f f.operands s

end BankSwitch.Arguments
