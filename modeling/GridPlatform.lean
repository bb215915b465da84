import GridPlatform.RawData
import GridPlatform.MeterCurve
import GridPlatform.PeriodAdapter
import GridPlatform.RawSamples
import GridPlatform.AccumulationAdapter
import GridPlatform.Generators
import GridPlatform.NonaccumulationAdapter
import GridPlatform.EmonHub
import GridPlatform.EmonHubUpdate
import GridPlatform.CachableSamples
import GridPlatform.AccumulationRun
import GridPlatform.NonaccumulationCaching
import GridPlatform.AdapterAgreement
import GridPlatform.MeterMonotone
