import SenseBox.Data.Run
import SenseBox.Data.Edge
import SenseBox.Data.Flt
import SenseBox.Data.Decimal
import SenseBox.Data.Rows
import SenseBox.Data.Hex
import SenseBox.Counter.Timeline
import SenseBox.Device.NewPing
import SenseBox.Device.HDC100X
import SenseBox.Device.Microphone
import SenseBox.Device.BMP280
import SenseBox.Device.Print
import SenseBox.Device.PrintFloat
import SenseBox.FinalDoorSD.Log
import SenseBox.FinalDoorSD.Blocks
import SenseBox.TruthfulRows
import SenseBox.SenseBoxIno.Pressure
import SenseBox.FinalElavatorSD.PressureIndependence
import SenseBox.MissingEchoes
import SenseBox.Counter.PplCounter
import SenseBox.Counter.Schedule
import SenseBox.Device.Freshness
import SenseBox.FinalElavatorSD.Calibration
import SenseBox.FreshMeasurements
import SenseBox.MicrophoneLevel
import SenseBox.SDUltrasonSensor.Card
import SenseBox.SDUltrasonSensor.Sampling
import SenseBox.SDuS.Model
import SenseBox.SameCounters
import SenseBox.ServerResponse
import SenseBox.UploadSchedule
import SenseBox.SDuS.Total
import SenseBox.Counter.Sleep
import SenseBox.Data.Binary32
import SenseBox.Data.Json
import SenseBox.Device.Compensation
import SenseBox.Device.Dtostrf
import SenseBox.Device.WiFiClient
import SenseBox.FinalDoorSD.Dump
import SenseBox.RawWords
import SenseBox.SenseboxCodeElevator.Posting
import SenseBox.SenseboxCodeElevator.Response
import SenseBox.Data.Failing
import SenseBox.Data.Linked
import SenseBox.Data.Words
import SenseBox.SD.Alloc
import SenseBox.SD.Clusters
import SenseBox.SD.Command
import SenseBox.SD.Handles
import SenseBox.SD.AllocRun
import SenseBox.SD.CacheRun
import SenseBox.SD.FatDir
import SenseBox.SD.Mount
import SenseBox.SD.DirCluster
import SenseBox.SD.Files
import SenseBox.SD.Session
import SenseBox.SD.Requests
import SenseBox.SD.SessionRun
