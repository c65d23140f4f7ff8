/-
  ApiTools.Http.Address
  ─────────────────────
  **NUMERIC ADDRESSES.**

  A host may be given by number: four decimal octets with dots between, or up
  to eight hexadecimal groups with colons between, of which one run may be
  left out and the last two may be written as four octets.
-/

namespace ApiTools.Http.Address

/-- The parts of a text between occurrences of a character; there is always one part. -/
def splitAt (separator : Char) : List Char → List (List Char)
  | [] => [[]]
  | c :: cs =>
    match splitAt separator cs with
    | [] => [[c]]
    | part :: parts => if c = separator then [] :: part :: parts else (c :: part) :: parts

/-! ## §1. Four octets. -/

/-- The number that decimal digits denote. -/
def decimal (cs : List Char) : Nat := cs.foldl (fun n c => n * 10 + (c.toNat - 48)) 0

/-- Is a text an octet in decimal?  There are no zeros in front. -/
def isOctet (cs : List Char) : Bool :=
  !cs.isEmpty && cs.all Char.isDigit && cs.length ≤ 3
    && (cs == ['0'] || cs.head? != some '0') && decimal cs ≤ 255

/-- Is a text four octets with dots between? -/
def isFour (cs : List Char) : Bool :=
  let parts := splitAt '.' cs
  parts.length == 4 && parts.all isOctet

/-- Is a text made of runs of digits with single characters between them, `n` of these? -/
def runsApart : Nat → List Char → Bool
  | 0, cs => !cs.isEmpty && cs.all Char.isDigit
  | n + 1, cs =>
    (List.range (cs.takeWhile Char.isDigit).length).any fun i =>
      i + 1 < cs.length && runsApart n (cs.drop (i + 2))

/-- Does a host look like four octets, whatever stands between them?  Then it has to be four
octets. -/
def looksLikeFour (cs : List Char) : Bool := runsApart 3 cs

/-! ## §2. Hexadecimal groups. -/

/-- Is a character a hexadecimal digit? -/
def isHexDigit (c : Char) : Bool :=
  c.isDigit || ('a' ≤ c && c ≤ 'f') || ('A' ≤ c && c ≤ 'F')

/-- Is a text a group of one to four hexadecimal digits? -/
def isGroup (cs : List Char) : Bool := !cs.isEmpty && cs.length ≤ 4 && cs.all isHexDigit

/-- The groups of an address; four octets at the end count as two groups.  `none` if these are
none. -/
def groups? (cs : List Char) : Option (List (List Char)) :=
  let parts := splitAt ':' cs
  match parts.getLast? with
  | some final =>
    if final.contains '.' then
      if isFour final then some (parts.dropLast ++ [['0'], ['0']]) else none
    else some parts
  | none => none

/-- Are groups, none of them left out, an address? -/
def isWhole (parts : List (List Char)) : Bool := parts.length == 8 && parts.all isGroup

/-- Are groups an address if the run at one place is left out?  An empty group at either end must
touch the run. -/
def isShortened (before after : List (List Char)) : Bool :=
  let front := if before.head? == some [] then before.tail else before
  let back := if after.getLast? == some [] then after.dropLast else after
  (before.head? != some [] || front.isEmpty) && (after.getLast? != some [] || back.isEmpty)
    && front.length + back.length < 8 && front.all isGroup && back.all isGroup

/-- Is a text an address of hexadecimal groups?  A zone may follow a percent sign. -/
def isSix (cs : List Char) : Bool :=
  let address := cs.takeWhile (· != '%')
  let zone := cs.drop address.length
  let zoneOk := zone.isEmpty || (1 < zone.length && !zone.tail.contains '%')
  zoneOk && match groups? address with
    | none => false
    | some parts =>
      let inner := parts.tail.dropLast
      3 ≤ parts.length && parts.length ≤ 9
        && match inner.count [] with
          | 0 => isWhole parts
          | 1 =>
            let before := parts.take (inner.takeWhile (· != [])).length.succ
            isShortened before (parts.drop (before.length + 1))
          | _ => false

end ApiTools.Http.Address
