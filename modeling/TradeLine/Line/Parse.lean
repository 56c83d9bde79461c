import TradeLine.Command
import TradeLine.Line.Form
import TradeLine.Rejection

/-!
# From a line to a command

`parse` checks a line in a fixed order: its form, its address, its number, and then its unit. The
first check that fails is the answer. A line that has a form can only fail on its address or its
number, but every check is made by the type that owns it, so the other exits are written out too.
-/

namespace TradeLine

/-- The command of a trade whose address is known to be good. -/
def TradeForm.command (parts : TradeForm) (line : Text) (target : Address) :
    Except Rejection Command :=
  match Amount.readValue parts.value with
  | .error _ => .error (.value parts.value)
  | .ok value =>
    match UnitName.normalize parts.unit (.trade parts.side) with
    | .error _ => .error (.format (Text.trim line))
    | .ok unit =>
      match Amount.ofValue value parts.percent unit with
      | .error _ => .error (.value parts.value)
      | .ok amount =>
        match Command.ofAction? (.trade parts.side) target amount with
        | none => .error (.format (Text.trim line))
        | some command => .ok command

/-- The command that a line means, or the first rule that it breaks. -/
def parse (line : Text) : Except Rejection Command :=
  match Form.ofLine? line with
  | none => .error (.format (Text.trim line))
  | some form =>
    match Address.ofText form.address with
    | .error _ => .error (.address form.address)
    | .ok target =>
      match form with
      | .query _ => .ok (.query target)
      | .trade parts => parts.command line target

/-- Whether a command, written as a line and read again, is the same. -/
def Command.roundTrips (c : Command) : Bool :=
  match parse c.line with
  | .ok c' => c' = c
  | .error _ => false

/-- Lines that show every shape of command. -/
def demoLines : List Text :=
  ["0x098054c0c6ba84d95E2011946Db9a15BfFDB4444+0.5bnb".toList,
   "0x098054c0c6ba84d95E2011946Db9a15BfFDB4444-100%".toList,
   "0xAabbccddeeff00112233445566778899AabbCCDD".toList,
   "9wFFo5AF2Zr1y9fQzSBkJtN49KBTzVZzraNmu6uUah8d+3sol".toList,
   "3n65MaYLVdu8Dfi63Zrm25KCNt4WyLPVWwNT5Ch9S93W".toList]

end TradeLine
