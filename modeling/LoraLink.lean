import LoraLink.Report.Simulation
import LoraLink.Plan.Request
import LoraLink.Region.EU868
import LoraLink.Proofs.Call
import LoraLink.Proofs.Plan
import LoraLink.Proofs.Uplink
import LoraLink.Proofs.Exchange
import LoraLink.Proofs.Downlink
import LoraLink.Proofs.Run
import LoraLink.Proofs.Effect
import LoraLink.Proofs.Legality
import LoraLink.Proofs.Encoding
import LoraLink.Proofs.Held
import LoraLink.Proofs.Soundness
import LoraLink.Proofs.Liveness
import LoraLink.Proofs.Repeats
import LoraLink.Proofs.Stream
import LoraLink.Proofs.Delivery
import LoraLink.Proofs.Duplex
import LoraLink.Proofs.Queue
import LoraLink.Proofs.Acknowledgement
import LoraLink.Proofs.Refusal
import LoraLink.Proofs.Gateway
import LoraLink.Proofs.Occupancy
import LoraLink.Proofs.History
import LoraLink.Proofs.Heap
import LoraLink.Proofs.Request
import LoraLink.Proofs.Schedule
import LoraLink.Proofs.Backoff
import LoraLink.Proofs.Listening
import LoraLink.Proofs.Carriage
import LoraLink.Proofs.Closing
import LoraLink.Proofs.Stranding
import LoraLink.Proofs.Waiting
import LoraLink.Proofs.Timing
import LoraLink.Frame.InPlace
import LoraLink.Proofs.Grammar
import LoraLink.Proofs.Answers
import LoraLink.Proofs.Foreign
import LoraLink.Frame.Storage
import LoraLink.Proofs.Storage
import LoraLink.Proofs.Exhaustion
import LoraLink.Proofs.Unbiased
import LoraLink.Proofs.Shift
import LoraLink.Proofs.Fading
import LoraLink.Proofs.Header
import LoraLink.Proofs.Setters
import LoraLink.Radio.WordAirtime
import LoraLink.Proofs.Airtime
