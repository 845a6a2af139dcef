import LoRaNode.Lib.Memory
import LoRaNode.Lib.Word
import LoRaNode.Lib.Transition
import LoRaNode.Lib.Monitor
import LoRaNode.Lib.Ledger
import LoRaNode.Lib.LinkedList
import LoRaNode.Lib.Pace
import LoRaNode.Lib.Ring
import LoRaNode.Lib.Delimited
import LoRaNode.Lib.Rijndael
import LoRaNode.Lib.Cmac
import LoRaNode.Lwip.Pbuf
import LoRaNode.Lwip.Packet
import LoRaNode.Lwip.Ownership
import LoRaNode.Schc.Header
import LoRaNode.Schc.Rule
import LoRaNode.Schc.Compression
import LoRaNode.Schc.Decompression
import LoRaNode.Schc.Residue
import LoRaNode.Schc.Lossless
import LoRaNode.Schc.Offset
import LoRaNode.Netif.Interface
import LoRaNode.Netif.Input
import LoRaNode.Netif.Output
import LoRaNode.Netif.RoundTrip
import LoRaNode.Netif.Reception
import LoRaNode.Netif.Mailbox
import LoRaNode.Coap.Client
import LoRaNode.Coap.Ownership
import LoRaNode.Coap.Exhaustion
import LoRaNode.App.Main
import LoRaNode.App.Transmission
import LoRaNode.App.RxFrame
import LoRaNode.Mac.State
import LoRaNode.Mac.Crypto
import LoRaNode.Crypto.Payload
import LoRaNode.Crypto.Aes
import LoRaNode.Crypto.Cmac
import LoRaNode.Crypto.Mic
import LoRaNode.Mac.Commands
import LoRaNode.Mac.Repeat
import LoRaNode.Mac.Transmit
import LoRaNode.Mac.Receive
import LoRaNode.Mac.Requests
import LoRaNode.Mac.Multicast
import LoRaNode.Mac.Events
import LoRaNode.Mac.Stream
import LoRaNode.Mac.Truncation
import LoRaNode.Mac.Frame
import LoRaNode.Mac.Schedule
import LoRaNode.Mac.Config
import LoRaNode.Mac.BackOff
import LoRaNode.Mac.Selection
import LoRaNode.Mac.ChannelTable
import LoRaNode.Mac.Termination
import LoRaNode.Mac.Aggregate
import LoRaNode.Mac.Fallback
import LoRaNode.Mac.JoinBackOff
import LoRaNode.Mac.Sound
import LoRaNode.Mac.CommandBuffer
import LoRaNode.Mac.Range
import LoRaNode.Mac.Cycle
import LoRaNode.Mac.Held
import LoRaNode.Mac.DutyCycle
import LoRaNode.Mac.OnAir
import LoRaNode.Mac.Confirm
import LoRaNode.Mac.Counter
import LoRaNode.Mac.Advance
import LoRaNode.Mac.Answers
import LoRaNode.Mac.Downlink
import LoRaNode.Mac.Acceptance
import LoRaNode.Mac.Reads
import LoRaNode.Mac.Layout
import LoRaNode.Mac.Decode
import LoRaNode.Mac.Session
import LoRaNode.Mac.Size
import LoRaNode.Mac.JoinNonce
import LoRaNode.Mac.AdrPace
import LoRaNode.Mac.Course
import LoRaNode.Mac.Overheard
import LoRaNode.Mac.Repetition
import LoRaNode.Mac.Query
import LoRaNode.Mac.Trials
import LoRaNode.Mac.Refusal
import LoRaNode.Mac.Unauthenticated
import LoRaNode.Mac.Delivery
import LoRaNode.Mac.Genuine
import LoRaNode.System.Fifo
import LoRaNode.Radio.Fsk
import LoRaNode.Gps.Parse
import LoRaNode.Gps.Access
import LoRaNode.Gps.Sentence
import LoRaNode.Rtc.Calendar
import LoRaNode.Rtc.Elapsed
import LoRaNode.Rtc.Alarm
import LoRaNode.Timer.State
import LoRaNode.Timer.Queue
import LoRaNode.Timer.Schedule
import LoRaNode.Timer.Alarm
