import VitaminD.Core.Numerals
import VitaminD.Core.Machine
import VitaminD.Core.Channel
import VitaminD.Core.Linear
import VitaminD.Core.Smoother
import VitaminD.Core.Saturation
import VitaminD.Core.Extended
import VitaminD.Core.Effects
import VitaminD.Core.Hoare
import VitaminD.Core.Registers
import VitaminD.Core.World
import VitaminD.Core.Transitions
import VitaminD.Core.BoundedQueue
import VitaminD.Core.Delimited
import VitaminD.Core.TextFile
import VitaminD.Model.Python
import VitaminD.Model.Calls
import VitaminD.Model.ButterworthLowPassFilter
import VitaminD.Model.SubGazeErrorNode
import VitaminD.Model.ServoNode
import VitaminD.Model.PCA9685
import VitaminD.Model.AdafruitServo
import VitaminD.Model.Hardware
import VitaminD.Model.Picamera
import VitaminD.Model.CameraWorker
import VitaminD.Model.Testcamera
import VitaminD.Model.TestcameraRoutes
import VitaminD.Model.CameraScripts
import VitaminD.Filter.Prototype
import VitaminD.Filter.Refinement
import VitaminD.Filter.Bounds
import VitaminD.Filter.FrequencyResponse
import VitaminD.Filter.Convolution
import VitaminD.Servo.Refinement
import VitaminD.Driver.Chip
import VitaminD.Driver.PWM
import VitaminD.Driver.Frequency
import VitaminD.Driver.Channels
import VitaminD.Driver.Angle
import VitaminD.Driver.Pulse
import VitaminD.Driver.Board
import VitaminD.Driver.Replay
import VitaminD.Stream.FrameQueue
import VitaminD.Stream.Progress
import VitaminD.Stream.Multipart
import VitaminD.Stream.RawFrames
import VitaminD.Stream.Startup
import VitaminD.Stream.Routes
import VitaminD.Config.Overlay
import VitaminD.Config.Backups
import VitaminD.Scenarios.Settling
import VitaminD.Scenarios.ServoEnvelope
import VitaminD.Scenarios.ServoSlew
import VitaminD.Scenarios.ServoRuns
import VitaminD.Scenarios.CorruptSamples
import VitaminD.Scenarios.CleanUp
import VitaminD.Scenarios.ServoHardware
import VitaminD.Scenarios.GazeToServo
