import ConsulLookup.Proofs.Watch.Recovery
import ConsulLookup.Proofs.Number.Seconds

/-! How long a watch sleeps after each cycle, and its backoff delay in exact arithmetic. -/

namespace ConsulLookup

namespace Timing

end Timing

namespace Watch

section Run

variable {d : Descriptor} {options : Mapping} {t : Timing}

end Run

end Watch

end ConsulLookup
