import Circulation.Value.Written
/-!
# Steps

The steps from which scenarios are made.  Ids and amounts are values of any kind.
-/

namespace Circulation

/-- One step of a scenario. -/
inductive Step where
  | checkout (memberClass title : Value)
  | giveBack (memberClass title lateDays : Value)
  | pay (memberClass amount : Value)
  | advance (days : Value)
  | report

namespace Step

/-- The written form of a step. -/
def inspect : Step → String
  | .checkout m t => "Checkout(member_class=" ++ m.inspect ++ ", title_id=" ++ t.inspect ++ ")"
  | .giveBack m t d =>
    "Return(member_class=" ++ m.inspect ++ ", title_id=" ++ t.inspect ++ ", late_days=" ++
      d.inspect ++ ")"
  | .pay m amount => "Pay(member_class=" ++ m.inspect ++ ", amount=" ++ amount.inspect ++ ")"
  | .advance days => "AdvanceDay(days=" ++ days.inspect ++ ")"
  | .report => "ReportState()"

end Step

end Circulation
