import ClockDiscipline.Host.Program.Shell.Fault

/-!
Options of the shell, in a call of it and of its command `set`. An option is a letter
behind a minus sign, or behind a plus sign where it is taken back. The letter `o` takes
the name of an option.
-/

namespace ClockDiscipline.Shell

def optionNames : List (String × Option Char) :=
  [("errexit", some 'e'), ("noglob", some 'f'), ("ignoreeof", some 'I'),
    ("interactive", some 'i'), ("monitor", some 'm'), ("noexec", some 'n'),
    ("stdin", some 's'), ("xtrace", some 'x'), ("verbose", some 'v'), ("vi", some 'V'),
    ("emacs", some 'E'), ("noclobber", some 'C'), ("allexport", some 'a'),
    ("notify", some 'b'), ("nounset", some 'u'), ("privileged", some 'p'),
    ("nolog", none), ("debug", none)]

structure Options where
  chosen : List String
  rest : List String
  hasScript : Bool
  isEnded : Bool
  listed : String
  fault : Option Fault

namespace Options

def turn (isOn : Bool) (name : String) (options : Options) : Options :=
  let others := options.chosen.filter (· ≠ name)
  { options with chosen := if isOn then name :: others else others }

def exclude (isOn : Bool) (name : String) (options : Options) : Options :=
  if isOn ∧ name = "vi" then options.turn false "emacs"
  else if isOn ∧ name = "emacs" then options.turn false "vi"
  else options

def letters (chosen : List String) : String :=
  String.ofList (optionNames.reverse.filterMap fun (name, letter) =>
    if chosen.contains name then letter else none)

def list (isPlain : Bool) (chosen : List String) : String :=
  let line (name : String) : String :=
    let isOn := chosen.contains name
    if isPlain then name.pushn ' ' (16 - name.length) ++ (if isOn then "on" else "off")
    else "set " ++ (if isOn then "-o " else "+o ") ++ name
  (if isPlain then "Current option settings\n" else "") ++
    String.join (optionNames.map fun (name, _) => line name ++ "\n")

/-- Read the letter of an option. In a call of the shell nothing is settled yet, so that a
list shows all options as set. -/
def readLetter (isCall isOn : Bool) (options : Options) (letter : Char) : Options :=
  if options.fault.isSome then options
  else if letter = 'c' ∧ isCall then { options with hasScript := true }
  else if letter = 'l' ∧ isCall then options
  else if letter = 'o' then
    match options.rest with
    | [] =>
        let chosen := if isCall then optionNames.map Prod.fst else options.chosen
        { options with listed := options.listed ++ list isOn chosen }
    | name :: rest =>
        if optionNames.any (·.1 = name) then options.turn isOn name |> ({ · with rest })
        else { options with fault := some (.badNamedOption name) }
  else
    match optionNames.find? (·.2 = some letter) with
    | some (name, _) => (options.turn isOn name).exclude isOn name
    | none => { options with fault := some (.badOption letter) }

def read (isCall : Bool) : (fuel : Nat) → Options → Options
  | 0, options => options
  | fuel + 1, options =>
      let letters (isOn : Bool) (letters : List Char) : Options :=
        let next :=
          letters.foldl (readLetter isCall isOn)
            { options with rest := options.rest.tail }
        if next.fault.isSome then next else read isCall fuel next
      match options.rest.head?.map String.toList with
      | some ['-', '-'] => { options with rest := options.rest.tail, isEnded := true }
      | some ['-'] =>
          let options := { options with rest := options.rest.tail }
          if isCall then options else (options.turn false "verbose").turn false "xtrace"
      | some ('-' :: characters) => letters true characters
      | some ('+' :: characters) => letters false characters
      | _ => options

def ofWords (isCall : Bool) (chosen words : List String) : Options :=
  read isCall (words.length + 1) ⟨chosen, words, false, false, "", none⟩

example : letters (ofWords true [] ["-eux", "+x", "a"]).chosen = "ue" := by decide +kernel

end Options

end ClockDiscipline.Shell
