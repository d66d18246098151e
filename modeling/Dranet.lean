import Dranet.Go
import Dranet.Net
import Dranet.Scan
import Dranet.Gce
import Dranet.Apis
import Dranet.Engine
import Dranet.Kernel
import Dranet.Trace
import Dranet.Reapply
import Dranet.Thread
import Dranet.Handles
import Dranet.Agreement
import Dranet.Metadata
import Dranet.Sysfs
import Dranet.Plugin
