import EspoScripts.Framework.Run
import EspoScripts.Framework.CmdText
import EspoScripts.Framework.Folder
import EspoScripts.Framework.Replace
import EspoScripts.Framework.Csv
import EspoScripts.Framework.Join
import EspoScripts.Framework.SetA
import EspoScripts.Framework.Vbs
import EspoScripts.Framework.Fso
import EspoScripts.Framework.Tree
import EspoScripts.Wol.Scan
import EspoScripts.Wol.Imagecaster
import EspoScripts.Wol.Transcript
import EspoScripts.Wol.Isolation
import EspoScripts.Wol.Getmac
import EspoScripts.Password.LocalAdmin
import EspoScripts.Inventory.Merge
import EspoScripts.Inventory.Import
import EspoScripts.Inventory.Pipeline
import EspoScripts.Anuc.Form
import EspoScripts.Anuc.Submit
import EspoScripts.Anuc.Columns
import EspoScripts.Catalog.Clear
import EspoScripts.Catalog.DeleteAll
import EspoScripts.Illumina.CheckFolder
import EspoScripts.Answer.FixUp
import EspoScripts.Ram.Ramcheck
import EspoScripts.Framework.Python
import EspoScripts.WolE.Magic
import EspoScripts.WolE.Bruteforce
import EspoScripts.WolE.Targets
import EspoScripts.Framework.VbsText
import EspoScripts.Monitor.Edid
import EspoScripts.Monitor.Report
import EspoScripts.Illumina.Computers
import EspoScripts.Sysprep.ConfigMe
import EspoScripts.Taskbar.PinItem
