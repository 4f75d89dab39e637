import Perfidious.Sampler.NeverBackwards
import Perfidious.Sampler.Identity
import Perfidious.Sampler.Deltas
import Perfidious.Sampler.Estimate
import Perfidious.Handle.Decode
import Perfidious.Info
import Perfidious.Request.Fork
import Perfidious.Request.Closing
import Perfidious.LowLevel.ThreadProfile
import Perfidious.LowLevel.ResourceUsage
import Perfidious.Sampler.Admission
import Perfidious.Sampler.Reversed
import Perfidious.Request.MetricList
import Perfidious.LowLevel.ProfileSnapshot
import Perfidious.Sampler.Solo
import Perfidious.LowLevel.Independent
import Perfidious.LowLevel.Between
import Perfidious.Sampler.DarwinPlatform
import Perfidious.Request.Lives
import Perfidious.Catalogue
import Perfidious.Sampler.Assertions
import Perfidious.Sampler.Fallback
import Perfidious.LowLevel.Snapshots
import Perfidious.LowLevel.Usage
import Perfidious.Handle.Readings
