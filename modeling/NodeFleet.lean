import NodeFleet.Abi.Call
import NodeFleet.Abi.Decode
import NodeFleet.Abi.Encode
import NodeFleet.Abi.Interface
import NodeFleet.Abi.Interface.Reader
import NodeFleet.Abi.Render
import NodeFleet.Abi.Spelled
import NodeFleet.Abi.Type
import NodeFleet.Abi.Value
import NodeFleet.Account
import NodeFleet.Address
import NodeFleet.AddressBook
import NodeFleet.Analysis
import NodeFleet.Analysis.Call
import NodeFleet.Analysis.Document
import NodeFleet.Analysis.Log
import NodeFleet.Analyzer
import NodeFleet.Broadcaster
import NodeFleet.Bytes
import NodeFleet.Bytes.Hex
import NodeFleet.Chain
import NodeFleet.Client
import NodeFleet.Command
import NodeFleet.Composer
import NodeFleet.Config
import NodeFleet.Config.Dotenv
import NodeFleet.Config.NodeList
import NodeFleet.Curve
import NodeFleet.Curve.Ecdsa
import NodeFleet.Digest.Keccak
import NodeFleet.Digest.Sha256
import NodeFleet.Error
import NodeFleet.Explorer
import NodeFleet.GasOracle
import NodeFleet.Json
import NodeFleet.Json.Reader
import NodeFleet.Json.Record
import NodeFleet.Main
import NodeFleet.Monitor
import NodeFleet.NameMap
import NodeFleet.Node
import NodeFleet.Node.Document
import NodeFleet.Node.Script
import NodeFleet.Number.Binary64
import NodeFleet.Number.Decimal96
import NodeFleet.Number.Power
import NodeFleet.Number.Shortest
import NodeFleet.Race
import NodeFleet.Remote
import NodeFleet.Report
import NodeFleet.Report.Document
import NodeFleet.Session
import NodeFleet.Spelled
import NodeFleet.Text.Alphanumeric
import NodeFleet.Text.Blank
import NodeFleet.Text.Case
import NodeFleet.Text.Case.Table
import NodeFleet.Text.Duration
import NodeFleet.Text.Integer
import NodeFleet.Text.Quoted
import NodeFleet.Text.Quoted.Table
import NodeFleet.Text.Ranges
import NodeFleet.Text.Utf8
import NodeFleet.Token
import NodeFleet.Transaction
import NodeFleet.Transaction.Rlp
import NodeFleet.Transaction.Signer
import NodeFleet.Units
import NodeFleet.Url
import NodeFleet.Watch
import NodeFleet.Watch.Script
import NodeFleet.Proofs.Delivery
import NodeFleet.Proofs.Race
import NodeFleet.Proofs.Status
import NodeFleet.Proofs.Watch
import NodeFleet.Proofs.Vigil
import NodeFleet.Proofs.Fate
import NodeFleet.Proofs.Classification
import NodeFleet.Proofs.Broadcast
import NodeFleet.Proofs.Effects
import NodeFleet.Proofs.Sending
import NodeFleet.Proofs.Validation
import NodeFleet.Proofs.Turnout
import NodeFleet.Proofs.PriceDesk
import NodeFleet.Proofs.Prices
import NodeFleet.Proofs.Analysis
import NodeFleet.Proofs.Layout
import NodeFleet.Proofs.Codec
import NodeFleet.Proofs.Calldata
import NodeFleet.Proofs.Rlp
import NodeFleet.Proofs.Wire
import NodeFleet.Proofs.Documents
import NodeFleet.Proofs.Polling
import NodeFleet.Proofs.FixedPoint
import NodeFleet.Proofs.Transfer
import NodeFleet.Proofs.Batch
import NodeFleet.Proofs.Logs
import NodeFleet.Proofs.Wrapped
import NodeFleet.Proofs.Composing
import NodeFleet.Proofs.Emission
import NodeFleet.Proofs.Together
import NodeFleet.Proofs.Schedule
import NodeFleet.Proofs.Numeral
import NodeFleet.Proofs.NodeList
import NodeFleet.Proofs.Rendering
import NodeFleet.Proofs.TokenPayment
import NodeFleet.Proofs.HexText
import NodeFleet.Proofs.Submission
import NodeFleet.Proofs.Settings
import NodeFleet.Proofs.TokenCalls
import NodeFleet.Proofs.Naming
