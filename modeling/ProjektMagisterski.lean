import ProjektMagisterski.Lib.Machine
import ProjektMagisterski.Obd.Playback
import ProjektMagisterski.Obd.Sampling
import ProjektMagisterski.Bluetooth.Model
import ProjektMagisterski.Bluetooth.LateFailure
import ProjektMagisterski.Bluetooth.ConnectionState
import ProjektMagisterski.Bluetooth.Orphans
import ProjektMagisterski.Bluetooth.OneUser
import ProjektMagisterski.Camera.Model
import ProjektMagisterski.Camera.OpenCloseLock
import ProjektMagisterski.Camera.RecorderLifeCycle
import ProjektMagisterski.Camera.ReadingsFile
import ProjektMagisterski.Gallery.ReadingsPath
import ProjektMagisterski.Camera.PreviewSize
import ProjektMagisterski.Obd.Player
import ProjektMagisterski.Devices.Model
import ProjektMagisterski.Devices.Offers
import ProjektMagisterski.App.Model
import ProjektMagisterski.App.Recordings
import ProjektMagisterski.App.Playback
import ProjektMagisterski.Lib.LastWrite
import ProjektMagisterski.Lib.Rounding
import ProjektMagisterski.Obd.ReaderThread
import ProjektMagisterski.Obd.Replay
import ProjektMagisterski.Obd.SamplingThread
import ProjektMagisterski.Obd.Screen
import ProjektMagisterski.Obd.PlayerActivity
import ProjektMagisterski.Bluetooth.Reconnect
import ProjektMagisterski.Camera.OpenDevices
import ProjektMagisterski.Camera.View
import ProjektMagisterski.Devices.Rows
import ProjektMagisterski.Gallery.Listing
import ProjektMagisterski.Lib.Projection
import ProjektMagisterski.App.Gallery
import ProjektMagisterski.Camera.Capture
import ProjektMagisterski.Camera.OwnRequest
import ProjektMagisterski.App.Threads
import ProjektMagisterski.App.NoCrash
import ProjektMagisterski.Camera.TimeStamp
import ProjektMagisterski.Lib.Refinement
import ProjektMagisterski.App.History
import ProjektMagisterski.App.UiThread
import ProjektMagisterski.Obd.MainScreen
