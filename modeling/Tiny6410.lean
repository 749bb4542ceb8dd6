import Tiny6410.Cs4270.Chip
import Tiny6410.Cs4270.Soc
import Tiny6410.Cs4270.Controls
import Tiny6410.Cs4270.Dai
import Tiny6410.Cs4270.Power
import Tiny6410.Cs4270.Host
import Tiny6410.Cs4270.Bus
import Tiny6410.Cs4270.Laws.FieldOwnership
import Tiny6410.Cs4270.Laws.ManualMute
import Tiny6410.Cs4270.Laws.DaiFormat
import Tiny6410.Cs4270.Laws.SuspendResume
import Tiny6410.Cs4270.Laws.Ratio
import Tiny6410.Cs4270.Laws.Configuration
import Tiny6410.Cs4270.Laws.Coherence
import Tiny6410.S3cfb.Fimd
import Tiny6410.S3cfb.Laws.Panel
import Tiny6410.S3cfb.Laws.Builtin
