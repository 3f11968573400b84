import Navtech.IASDK.Commands
import Navtech.IASDK.Decoding
import Navtech.IASDK.RadarTcpClient
import Navtech.IASDK.RadarTcpClientConnection
import Navtech.IASDK.StreamEnd
import Navtech.IASDK.TcpClient
import Navtech.IASDK.TcpClientConnection
import Navtech.IASDK.TcpNetworkDataMessage
import Navtech.IASDK.Utility
import Navtech.Legacy.Agreement
import Navtech.Legacy.Handlers
import Navtech.Legacy.NetworkDataMessage
import Navtech.Legacy.RadarClient
import Navtech.Legacy.ReadThread
import Navtech.Legacy.Resume
import Navtech.Lib.BinaryFloat
import Navtech.Lib.BinaryRounding
import Navtech.Lib.Buffer
import Navtech.Lib.ByteOrder
import Navtech.Lib.CheckedView
import Navtech.Lib.ExceptState
import Navtech.Lib.ExtRat
import Navtech.Lib.Iterate
import Navtech.Lib.LeastSquares
import Navtech.Lib.Loop
import Navtech.Lib.Machine
import Navtech.Lib.ManagedArray
import Navtech.Lib.Marker
import Navtech.Lib.NumberText
import Navtech.Lib.PackedRecord
import Navtech.Lib.Raster
import Navtech.Lib.Runs
import Navtech.Lib.SignificantBits
import Navtech.Lib.Transition
import Navtech.Navigation.NavigationMain
import Navtech.Navigation.PeakBins
import Navtech.Navigation.PeakBuffer
import Navtech.Navigation.PeakFinder
import Navtech.Navigation.PeakIndex
import Navtech.Navigation.PeakIndexRefines
import Navtech.Navigation.PeakLimit
import Navtech.Navigation.PeakResolve
import Navtech.Navigation.PeakSafety
import Navtech.Navigation.PeakScan
import Navtech.Navigation.PeakTargets
import Navtech.Navigation.PeakVertex
import Navtech.Navigation.SectorBlanking
import Navtech.Navigation.SectorCalls
import Navtech.Navigation.SectorDecoding
import Navtech.Network.Angles
import Navtech.Network.Chunking
import Navtech.Network.Close
import Navtech.Network.ColossusMessages
import Navtech.Network.ContourMap
import Navtech.Network.Delivery
import Navtech.Network.Frame
import Navtech.Network.FrameValues
import Navtech.Network.Framing
import Navtech.Network.GainAndOffset
import Navtech.Network.HeaderInsertion
import Navtech.Network.Message
import Navtech.Network.MessageAssembly
import Navtech.Network.NavigationRecords
import Navtech.Network.ParseSafety
import Navtech.Network.Pipeline
import Navtech.Network.PipelineProgress
import Navtech.Network.RadarClient
import Navtech.Network.RadarClientRun
import Navtech.Network.ReadThread
import Navtech.Network.ReaderSteps
import Navtech.Network.Reconnect
import Navtech.Network.Requests
import Navtech.Network.Restart
import Navtech.Network.Resume
import Navtech.Network.Sending
import Navtech.Network.Session
import Navtech.Network.StopJoin
import Navtech.Network.StoredRange
import Navtech.Network.TcpRadarClient
import Navtech.Network.TcpSocket
import Navtech.Network.TypedRoundTrip
import Navtech.Python.FftData
import Navtech.Python.NavigationMode
import Navtech.Python.PeakDetection
import Navtech.Python.PeakPosition
import Navtech.Ros.AzimuthOffset
import Navtech.Ros.BScan
import Navtech.Ros.ColossusAndCameraPublisher
import Navtech.Ros.ColossusAndCameraSubscriber
import Navtech.Ros.ColossusNode
import Navtech.Ros.ColossusPublisher
import Navtech.Ros.ColrawRecording
import Navtech.Ros.LaserScan
import Navtech.Ros.NavigationParameters
import Navtech.Ros.Parameters
import Navtech.Ros.PointCloud
import Navtech.Ros.RosToColraw
import Navtech.Ros.SubscriberToVideo
import Navtech.Ros.TalkerNode
import Navtech.Utility.Angle
import Navtech.Utility.AngleArithmetic
import Navtech.Utility.AngleLoop
import Navtech.Utility.IpAddress
import Navtech.Utility.NetConversion
import Navtech.Utility.NetConversion64
import Navtech.Utility.ThreadedQueue
import Navtech.Utility.ThreadedQueueStop
import Navtech.Utility.Timer
