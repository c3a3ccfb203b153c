import PcmFlowUdp.ByteTransport.Runs
import PcmFlowUdp.ByteTransport.Batching
import PcmFlowUdp.ByteTransport.CircularBuffer
import PcmFlowUdp.Pcm
import PcmFlowUdp.Udp
import PcmFlowUdp.Rtp.Sender
import PcmFlowUdp.Rtp.Packetizer
import PcmFlowUdp.Rtp.Receiver
import PcmFlowUdp.Link
import PcmFlowUdp.PcmQueue
import PcmFlowUdp.Rtp.Reception
import PcmFlowUdp.Rtp.StreamIdentity
import PcmFlowUdp.Vban.Protocol
import PcmFlowUdp.Vban.Receiver
import PcmFlowUdp.Vban.Sender
import PcmFlowUdp.Vban.Packetizer
import PcmFlowUdp.Vban.Reception
import PcmFlowUdp.Vban.StreamIdentity
import PcmFlowUdp.Vban.LossObservability
import PcmFlowUdp.ByteTransport.Mailbox
import PcmFlowUdp.Rtp.EncodedPath
import PcmFlowUdp.Rtp.PayloadDelimitation
import PcmFlowUdp.Rtp.PcmSession
import PcmFlowUdp.Rtp.ChannelLock
import PcmFlowUdp.Rtp.FrameAlignment
import PcmFlowUdp.Rtp.MixedUse
import PcmFlowUdp.ByteTransport.Stamping
import PcmFlowUdp.Rtp.Stream
import PcmFlowUdp.Rtp.SequenceLaw
import PcmFlowUdp.Rtp.MediaClock
import PcmFlowUdp.Vban.Classification
import PcmFlowUdp.ByteTransport.Answers
import PcmFlowUdp.Vban.FrameQueue
import PcmFlowUdp.Rtp.PathIndependence
import PcmFlowUdp.Isolation
import PcmFlowUdp.Chunking
import PcmFlowUdp.Emissions
import PcmFlowUdp.Vban.ValidPackets
import PcmFlowUdp.Rtp.L16Packets
import PcmFlowUdp.Rtp.Labels
import PcmFlowUdp.ByteTransport.Framing
import PcmFlowUdp.RawUdp.Framing
import PcmFlowUdp.ByteTransport.FrameCursor
import PcmFlowUdp.RawUdp.Stream
import PcmFlowUdp.RawUdp.Delivery
import PcmFlowUdp.WholePackets
import PcmFlowUdp.Rtp.HeaderGrammar
import PcmFlowUdp.Vban.HeaderCodec
import PcmFlowUdp.Rtp.Prebuffer
import PcmFlowUdp.RawUdp.BufferSafety
import PcmFlowUdp.Rtp.Truncation
import PcmFlowUdp.Vban.StreamNames
import PcmFlowUdp.FlushReports
import PcmFlowUdp.RejectedCalls
import PcmFlowUdp.ByteTransport.Checked
import PcmFlowUdp.SenderSafety
import PcmFlowUdp.Rtp.PollSafety
import PcmFlowUdp.ByteTransport.PythonBytes
import PcmFlowUdp.Rtp.NetHelpers
import PcmFlowUdp.RingPrimitives
import PcmFlowUdp.ByteTransport.Arrivals
import PcmFlowUdp.Vban.Conservation
import PcmFlowUdp.Vban.Network
import PcmFlowUdp.Rtp.Inbox
import PcmFlowUdp.Rtp.Network
import PcmFlowUdp.Rtp.DataNetwork
import PcmFlowUdp.Restart
import PcmFlowUdp.Rtp.LossObservability
import PcmFlowUdp.Vban.NetHelpers
import PcmFlowUdp.Vban.Interop
import PcmFlowUdp.Rtp.Interop
import PcmFlowUdp.RawUdp.Network
import PcmFlowUdp.ReceiverSafety
import PcmFlowUdp.Vban.Planes
import PcmFlowUdp.ByteTransport.Playback
import PcmFlowUdp.Playback
import PcmFlowUdp.SenderRestart
