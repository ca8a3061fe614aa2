import Modbus.ByteWords
import Modbus.BitPacking
import Modbus.ByteParser
import Modbus.ByteWriter
import Modbus.Runs
import Modbus.JoinSet
import Modbus.ShiftRegister
import Modbus.Values
import Modbus.Codes
import Modbus.Parse
import Modbus.PduDecoders
import Modbus.PduEncoders
import Modbus.FileRecord
import Modbus.Mei
import Modbus.SubItems
import Modbus.Pdu
import Modbus.Truncation
import Modbus.PduRequest
import Modbus.PduResponse
import Modbus.PduRoundTrip
import Modbus.Framing
import Modbus.Rtu
import Modbus.RtuBurst
import Modbus.Ascii
import Modbus.Substitution
import Modbus.Tcp
import Modbus.AduRoundTrip
import Modbus.RtuExtent
import Modbus.SelfDelimiting
import Modbus.ByteStream
import Modbus.Panic
import Modbus.Transport
import Modbus.Reassembly
import Modbus.Silence
import Modbus.Client
import Modbus.FrameTransport
import Modbus.SendBuffer
import Modbus.SerialExchange
import Modbus.Pipeline
import Modbus.PipelineTask
import Modbus.PipelineLedger
import Modbus.PipelineSteps
import Modbus.PipelineIdentifiers
import Modbus.PipelineReplies
import Modbus.PipelineMatching
import Modbus.StreamFraming
import Modbus.Chunking
import Modbus.ExtentTable
import Modbus.AsciiLine
import Modbus.ReceiveBound
import Modbus.BufferBound
import Modbus.Damage
import Modbus.FrameErrors
import Modbus.Server
import Modbus.ServerTrace
import Modbus.ClientMethods
import Modbus.ClientHistory
import Modbus.ClientMatching
import Modbus.BitReads
import Modbus.LinkSurvival
import Modbus.Conveyance
import Modbus.Conduit
import Modbus.Composition
import Modbus.Bus
import Modbus.BusExchange
import Modbus.RequestGrammar
import Modbus.ClientWrites
import Modbus.PipelineIsolation
import Modbus.Lifecycle
import Modbus.SeveredFrame
import Modbus.DeadStream
import Modbus.ServeTasks
import Modbus.Listener
import Modbus.ListenerPolicy
import Modbus.UdpServer
import Modbus.UdpExchange
import Modbus.PipelineExchange
import Modbus.Shutdown
import Modbus.TlsServer
import Modbus.ConnectionStory
import Modbus.StreamServer
import Modbus.StreamPairing
import Modbus.SharedService
import Modbus.CheckedDecoders
import Modbus.CheckedFraming
import Modbus.CheckedReceive
import Modbus.Deadline
import Modbus.SerialTiming
