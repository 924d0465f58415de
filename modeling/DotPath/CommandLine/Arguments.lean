import DotPath.Value
import DotPath.Text.Blank
import DotPath.Text.Case
import DotPath.Text.Digit
import DotPath.Text.Quoted

set_option autoImplicit false

/-!
Arguments of a command line. Options may be written short, several letters together, or cut off
where that leaves no doubt; their values follow them or an equals sign. All other arguments fill
the places of the command in order, and after two dashes alone every argument is such a one.
-/

namespace DotPath.CommandLine

open Text

/-- What an option does: it stops the reading, or stores its value in a field. A value may be put
in upper case first, and has to be one of the choices, if there are any. -/
inductive Effect where
  | help
  | version
  | store (field : String) (inUpperCase : Bool) (choices : List String)
  deriving DecidableEq, Repr

structure OptionSpec where
  names : List String
  effect : Effect
  deriving DecidableEq, Repr

/-- A place for one argument, or for one argument with all that come after it. -/
inductive Slot where
  | single (name : String)
  | command (name : String) (choices : List String)
  deriving DecidableEq, Repr

/-- The arguments that a program takes. -/
structure Grammar where
  options : List OptionSpec
  slots : List Slot

/-- Why reading ends before all arguments are read. -/
inductive Halt where
  | help
  | version
  | fault (message : String)
  deriving DecidableEq, Repr

/-- What has been read: the values of options and places, the command with its arguments, and the
arguments that nothing takes. -/
structure Reading where
  options : List (String × String) := []
  places : List (String × Value) := []
  command : List String := []
  extras : List String := []

namespace OptionSpec

def takesValue (o : OptionSpec) : Bool :=
  match o.effect with
  | .store _ _ _ => true
  | _ => false

/-- The option in messages: all its names. -/
def title (o : OptionSpec) : String := String.intercalate "/" o.names

def fault (o : OptionSpec) (message : String) : Halt := .fault s!"argument {o.title}: {message}"

end OptionSpec

/-- An option as it was written: the option, the name it was found by, and the value in the same
argument. -/
structure Found where
  spec : OptionSpec
  name : String
  value : Option (List Char)

/-- What an argument is by its looks. -/
inductive Mark where
  | plain
  | dashes
  | known (found : Found)
  | unknown

def Mark.isOption : Mark → Bool
  | known _ | unknown => true
  | plain | dashes => false

def quotedText (s : List Char) : String := String.ofList (quoted s)

/-- The names of all options with their options, in order. -/
def Grammar.named (g : Grammar) : List (String × OptionSpec) :=
  g.options.flatMap fun o => o.names.map (·, o)

def Grammar.find? (g : Grammar) (name : List Char) : Option OptionSpec :=
  g.named.lookup (String.ofList name)

/-- A text cut at its first equals sign. -/
def cutAtEquals (s : List Char) : List Char × Option (List Char) :=
  match s.span (· != '=') with
  | (before, _ :: after) => (before, some after)
  | (before, []) => (before, none)

/-- The options that an argument may be the beginning of. -/
def Grammar.candidates (g : Grammar) (arg : List Char) : List Found :=
  match arg with
  | '-' :: '-' :: _ =>
    let (beginning, value) := cutAtEquals arg
    g.named.filterMap fun n =>
      if beginning.isPrefixOf n.1.toList then some ⟨n.2, n.1, value⟩ else none
  | _ =>
    g.named.filterMap fun n =>
      if n.1.toList == arg.take 2 then some ⟨n.2, n.1, some (arg.drop 2)⟩
      else if arg.isPrefixOf n.1.toList then some ⟨n.2, n.1, none⟩
      else none

/-- A negative number, which is no option. A break at the end does not count. -/
def isNegativeNumber (arg : List Char) : Bool :=
  match arg with
  | '-' :: rest =>
    let number := if rest.getLast? == some '\n' then rest.dropLast else rest
    match number.dropWhile isDecimal with
    | [] => !number.isEmpty
    | '.' :: fraction => !fraction.isEmpty && fraction.all isDecimal
    | _ => false
  | _ => false

/-- What an argument is that does not stand after two dashes alone. -/
def Grammar.mark (g : Grammar) (arg : List Char) : Except Halt Mark :=
  if arg.head? != some '-' then .ok .plain
  else
    match g.find? arg with
    | some o => .ok (.known ⟨o, String.ofList arg, none⟩)
    | none =>
      if arg == ['-'] then .ok .plain
      else
        let (name, value) := cutAtEquals arg
        match if value.isSome then g.find? name else none with
        | some o => .ok (.known ⟨o, String.ofList name, value⟩)
        | none =>
          match g.candidates arg with
          | [found] => .ok (.known found)
          | [] => .ok (if isNegativeNumber arg || arg.contains ' ' then .plain else .unknown)
          | several =>
            let names := String.intercalate ", " (several.map (·.name))
            .error (.fault s!"ambiguous option: {String.ofList arg} could match {names}")

/-- The arguments with what they are. -/
def Grammar.marked (g : Grammar) : List String → Except Halt (List (String × Mark))
  | [] => .ok []
  | a :: as =>
    if a == "--" then .ok ((a, .dashes) :: as.map (·, .plain))
    else do
      let m ← g.mark a.toList
      let rest ← g.marked as
      pure ((a, m) :: rest)

/-- The options of one argument with their values, and the arguments after it. -/
structure Spent where
  effects : List (OptionSpec × Option (List Char))
  rest : List (String × Mark)

def ignored (o : OptionSpec) (value : List Char) : Halt :=
  o.fault s!"ignored explicit argument {quotedText value}"

/-- An option without a value in the same argument. -/
def spendAlone (o : OptionSpec) (rest : List (String × Mark)) : Except Halt Spent :=
  if o.takesValue then
    match rest with
    | (v, .plain) :: rest => .ok ⟨[(o, some v.toList)], rest⟩
    | _ => .error (o.fault "expected one argument")
  else .ok ⟨[(o, none)], rest⟩

/-- An option with more text in the same argument: its value, or the letters of more options after
that of an option without one. -/
def spend (g : Grammar) (rest : List (String × Mark)) :
    OptionSpec → String → List Char → Except Halt Spent
  | o, name, value =>
    if o.takesValue then .ok ⟨[(o, some value)], rest⟩
    else if name.startsWith "--" then .error (ignored o value)
    else
      match value with
      | [] => .error (ignored o [])
      | c :: cs =>
        match g.find? ['-', c] with
        | none => .error (ignored o value)
        | some o' => do
          let s ←
            if cs.isEmpty then spendAlone o' rest
            else spend g rest o' (String.ofList ['-', c]) cs
          pure { s with effects := (o, none) :: s.effects }
termination_by _ _ value => value.length

/-- Puts a value into its field. -/
def Reading.store (r : Reading) (o : OptionSpec) (value : Option (List Char)) :
    Except Halt Reading :=
  match o.effect with
  | .help => .error .help
  | .version => .error .version
  | .store field inUpperCase choices =>
    let v := value.getD []
    let v := String.ofList (if inUpperCase then upper v else v)
    if choices.isEmpty || choices.contains v then .ok { r with options := (field, v) :: r.options }
    else
      let offered := String.intercalate ", " (choices.map fun c => quotedText c.toList)
      .error (o.fault s!"invalid choice: {quotedText v.toList} (choose from {offered})")

def Reading.storeAll (r : Reading) (effects : List (OptionSpec × Option (List Char))) :
    Except Halt Reading :=
  effects.foldlM (fun r e => r.store e.1 e.2) r

def Reading.addExtras (r : Reading) (extras : List String) : Reading :=
  { r with extras := r.extras ++ extras }

/-- Reads the option at the front of the arguments. -/
def Grammar.readOption (g : Grammar) (r : Reading) (arg : String) (m : Mark)
    (rest : List (String × Mark)) : Except Halt (Reading × List (String × Mark)) :=
  match m with
  | .known found => do
    let s ←
      match found.value with
      | none => spendAlone found.spec rest
      | some value => spend g rest found.spec found.name value
    pure (← r.storeAll s.effects, s.rest)
  | _ => pure (r.addExtras [arg], rest)

/-- The arguments that fill a place for one: an argument, with two dashes alone before or after
it. -/
def takeSingle (args : List (String × Mark)) : Option (List String × List (String × Mark)) :=
  let isDashes (a : String × Mark) : Bool := a.2 matches .dashes
  let (before, rest) := args.span isDashes
  match rest with
  | (a, .plain) :: rest =>
    let (after, rest) := rest.span isDashes
    some (before.map (·.1) ++ a :: after.map (·.1), rest)
  | _ => none

/-- The value of a place for one argument. The first two dashes among its arguments do not count,
and may leave none. -/
def placeValue (args : List String) : Value :=
  match args.erase "--" with
  | [a] => .text a
  | _ => .list []

/-- Fills as many places as the arguments at the front can fill. -/
def fillSlots (r : Reading) :
    List Slot → List (String × Mark) → Except Halt (Reading × List Slot × List (String × Mark))
  | [], args => .ok (r, [], args)
  | .single name :: slots, args =>
    match takeSingle args with
    | some (taken, rest) =>
      fillSlots { r with places := r.places ++ [(name, placeValue taken)] } slots rest
    | none => .ok (r, .single name :: slots, args)
  | .command name choices :: slots, args =>
    match takeSingle args with
    | some _ =>
      let command := args.map (·.1)
      let chosen := command.head?.getD ""
      if choices.contains chosen then .ok ({ r with command }, slots, [])
      else
        let offered := String.intercalate ", " (choices.map fun c => quotedText c.toList)
        let shown := quotedText chosen.toList
        .error (.fault s!"argument {name}: invalid choice: {shown} (choose from {offered})")
    | none => .ok (r, .command name choices :: slots, args)

/-- Reads options and places in turn as long as there are options, and then the last places. The
count bounds the turns. -/
def Grammar.readMarked (g : Grammar) :
    Nat → Reading → List Slot → List (String × Mark) → Except Halt (Reading × List Slot)
  | 0, r, slots, _ => .ok (r, slots)
  | n + 1, r, slots, args => do
    match args with
    | (arg, m) :: rest =>
      if m.isOption then
        let (r, rest) ← g.readOption r arg m rest
        g.readMarked n r slots rest
      else
        let (r, slots, left) ← fillSlots r slots args
        if left.length < args.length then g.readMarked n r slots left
        else
          let (extras, rest) := args.span fun a => !a.2.isOption
          g.readMarked n (r.addExtras (extras.map (·.1))) slots rest
    | [] => pure (r, slots)

def Slot.name : Slot → String
  | single name | command name _ => name

/-- Must the place be filled? -/
def Slot.isRequired : Slot → Bool
  | single _ => true
  | command _ _ => false

/-- Reads all arguments. -/
def Grammar.read (g : Grammar) (args : List String) : Except Halt Reading := do
  let marked ← g.marked args
  let (r, left) ← g.readMarked (marked.length + 1) {} g.slots marked
  match left.filter Slot.isRequired with
  | [] => pure r
  | missing =>
    let names := String.intercalate ", " (missing.map Slot.name)
    throw (.fault s!"the following arguments are required: {names}")

end DotPath.CommandLine
