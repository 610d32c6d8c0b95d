import Mpm2Tools.Foundation.PyBytes
import Mpm2Tools.Foundation.PyText
import Mpm2Tools.Foundation.PyInt
import Mpm2Tools.Gensys.SprModule
import Mpm2Tools.Gensys.InstructionRelocation
import Mpm2Tools.Gensys.System
import Mpm2Tools.Gensys.Generate
import Mpm2Tools.Gensys.Allocation
import Mpm2Tools.Gensys.Phases
import Mpm2Tools.Gensys.Run
import Mpm2Tools.Gensys.Layout
import Mpm2Tools.Gensys.ProcessLists
import Mpm2Tools.Gensys.Output
import Mpm2Tools.Gensys.BootImage
import Mpm2Tools.Mkmpm.ReadSpr
import Mpm2Tools.Mkmpm.Main
import Mpm2Tools.Imd2raw.Parse
import Mpm2Tools.Imd2raw.Raw
import Mpm2Tools.DriPatch.IntelHex
import Mpm2Tools.DriPatch.RoundTrip
import Mpm2Tools.DriPatch.Build
import Mpm2Tools.DriPatch.Args
import Mpm2Tools.Build.Mpmldr
import Mpm2Tools.Imd2raw.RoundTrip
