import LineShell.Shell.Utility.Inputs

/-!
# The program that keeps parts of lines

This is `cut`.  A part is a range of bytes, or of fields between separators.
-/

namespace LineShell
namespace Shell
namespace Cutting

/-- A range of places, counted from one; the last one may be open. -/
structure Places where
  first : Nat
  last : Option Nat

def Places.has (p : Places) (n : Nat) : Bool := p.first ≤ n && p.last.all (n ≤ ·)

/-- Why a list of places is refused. -/
inductive ListFault where
  | zero
  | invalid (text : Octets)
  | decreasing
  | open_

def places? (text : List Char) : Except ListFault Places :=
  let number := fun digits : List Char =>
    digits.foldl (fun n c => 10 * n + (c.toNat - '0'.toNat)) 0
  let first := text.takeWhile (· != '-')
  let rest := text.drop first.length
  if text.any fun c => !c.isDigit && c != '-' then .error (.invalid (String.ofList text))
  else
    match rest with
    | [] =>
      if first.isEmpty || number first = 0 then .error .zero
      else .ok ⟨number first, some (number first)⟩
    | _ :: last =>
      if last.contains '-' then .error (.invalid (String.ofList text))
      else if first.isEmpty && last.isEmpty then .error .open_
      else if !first.isEmpty && number first = 0 then .error .zero
      else if !last.isEmpty && number last = 0 then .error .zero
      else
        let low := if first.isEmpty then 1 else number first
        if last.isEmpty then .ok ⟨low, none⟩
        else if number last < low then .error .decreasing
        else .ok ⟨low, some (number last)⟩

def keepAt {α : Type} (keeps : Nat → Bool) (items : List α) : List α :=
  (items.zipIdx.filter fun (_, i) => keeps (i + 1)).map (·.1)

def fieldsOf (separator : Char) (line : List Char) : List (List Char) :=
  let step := fun (c : Char) (fields : List (List Char)) =>
    if c = separator then [] :: fields
    else match fields with
      | field :: rest => (c :: field) :: rest
      | [] => [[c]]
  line.foldr step [[]]

def joinWith (separator : List Char) (fields : List (List Char)) : List Char :=
  separator.intercalate fields

/-- Keeps parts of a line; none if the line is dropped. -/
def cutLine (byFields : Bool) (keeps : Nat → Bool) (separator : Char) (joiner : Option (List Char))
    (onlyDelimited : Bool) (line : List Char) : Option (List Char) :=
  if byFields then
    if !line.contains separator then if onlyDelimited then none else some line
    else
      some (joinWith (joiner.getD [separator]) (keepAt keeps (fieldsOf separator line)))
  else some (keepAt keeps line)

def cut : Tool := fun _ name words =>
  Tool.withOptions [⟨'b', "bytes", .yes⟩, ⟨'c', "characters", .yes⟩, ⟨'f', "fields", .yes⟩,
      ⟨'d', "delimiter", .yes⟩, ⟨'s', "only-delimited", .no⟩, ⟨'n', "", .no⟩,
      ⟨'\x01', "complement", .no⟩, ⟨'\x02', "output-delimiter", .yes⟩,
      ⟨'z', "zero-terminated", .no⟩] 1 name words fun given => do
    let lists := given.options.filter fun option => ['b', 'c', 'f'].contains option.1
    match lists with
    | [] => Tool.misuse name "you must specify a list of bytes, characters, or fields" 1
    | _ :: _ :: _ => Tool.misuse name "only one list may be specified" 1
    | [(letter, text)] =>
      let byFields := letter = 'f'
      let delimiter := (given.value? 'd').getD "\t"
      if given.has 'd' && !byFields then
        return ← Tool.misuse name
          "an input delimiter may be specified only when operating on fields" 1
      if given.has 's' && !byFields then
        return ← Tool.misuse name
          ("suppressing non-delimited lines makes sense\n\tonly when operating on fields") 1
      if 1 < delimiter.length then
        return ← Tool.misuse name "the delimiter must be a single character" 1
      let texts := (text.getD "").toList.map fun c => if c = ' ' || c = '\t' then ',' else c
      match (fieldsOf ',' texts).mapM places? with
      | .error .zero =>
        Tool.misuse name (if byFields then "fields are numbered from 1"
          else "byte/character positions are numbered from 1") 1
      | .error (.invalid text) =>
        Tool.misuse name ((if byFields then "invalid field value "
          else "invalid byte/character position ") ++ Quoting.plain text) 1
      | .error .decreasing => Tool.misuse name "invalid decreasing range" 1
      | .error .open_ => Tool.misuse name "invalid range with no endpoint: -" 1
      | .ok ranges =>
        let keeps := fun n => ranges.any (·.has n) != given.has '\x01'
        let separator := delimiter.toList.head?.getD '\x00'
        let joiner := (given.value? '\x02').map (·.toList)
        Tool.each (Tool.inputs given) fun path => do
          match ← Tool.inputOrComplain name path with
          | none => return false
          | some octets =>
            let stop := Tool.stopOf (given.has 'z')
            let lines := (Tool.records stop octets).filterMap
              (cutLine byFields keeps separator joiner (given.has 's'))
            Run.emit (Tool.unrecords stop lines)
            return true

end Cutting
end Shell
end LineShell
