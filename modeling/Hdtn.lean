import Hdtn.Storage.PopOrder
import Hdtn.Storage.ReadBack
import Hdtn.Storage.Window
import Hdtn.Storage.RoundTrip
import Hdtn.Storage.Restart
import Hdtn.Storage.Capacity
import Hdtn.DirectoryScanner.Timer
import Hdtn.DirectoryScanner.Delivery
import Hdtn.DirectoryScanner.Listing
import Hdtn.Bpsec.FailureEvent
import Hdtn.Bpsec.Outgoing
