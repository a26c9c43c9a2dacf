import ShardClient.Main
import ShardClient.Proofs.Battery.Building
import ShardClient.Proofs.Battery.Sending
import ShardClient.Proofs.Codec.AddressText
import ShardClient.Proofs.Codec.Base58
import ShardClient.Proofs.Codec.Base64
import ShardClient.Proofs.Codec.ByteOrder
import ShardClient.Proofs.Codec.Decimal
import ShardClient.Proofs.Codec.Hex
import ShardClient.Proofs.Codec.Radix
import ShardClient.Proofs.Codec.Utf8
import ShardClient.Proofs.CommandLine.Faults
import ShardClient.Proofs.CommandLine.Performing
import ShardClient.Proofs.Composer.Airdrops
import ShardClient.Proofs.Composer.Builders
import ShardClient.Proofs.Composer.Call
import ShardClient.Proofs.Composer.Commuting
import ShardClient.Proofs.Composer.Concealed
import ShardClient.Proofs.Composer.Deploying
import ShardClient.Proofs.Composer.Envelope
import ShardClient.Proofs.Composer.Halfway
import ShardClient.Proofs.Composer.Making
import ShardClient.Proofs.Composer.Refusing
import ShardClient.Proofs.Composer.Relaying
import ShardClient.Proofs.Composer.Relays
import ShardClient.Proofs.Composer.Sequence
import ShardClient.Proofs.Composer.Signing
import ShardClient.Proofs.Composer.Supplying
import ShardClient.Proofs.Composer.UsedUp
import ShardClient.Proofs.Gateway.Batch
import ShardClient.Proofs.Gateway.Places
import ShardClient.Proofs.Gateway.Request
import ShardClient.Proofs.Gateway.Written
import ShardClient.Proofs.Json.Map
import ShardClient.Proofs.Json.Numeral
import ShardClient.Proofs.Json.RoundTrip
import ShardClient.Proofs.Json.Spelling
import ShardClient.Proofs.Preparation.Deployed
import ShardClient.Proofs.Preparation.Issued
import ShardClient.Proofs.Preparation.Phases
import ShardClient.Proofs.Preparation.Stages
import ShardClient.Proofs.Registry.Shards
import ShardClient.Proofs.Run.Agreement
import ShardClient.Proofs.Run.Blameless
import ShardClient.Proofs.Run.Books
import ShardClient.Proofs.Run.Confined
import ShardClient.Proofs.Run.Forgetting
import ShardClient.Proofs.Run.InTurn
import ShardClient.Proofs.Run.Ledger
import ShardClient.Proofs.Run.Once
import ShardClient.Proofs.Run.Recording
import ShardClient.Proofs.Run.Requests
import ShardClient.Proofs.Run.Reserving
import ShardClient.Proofs.Run.Returns
import ShardClient.Proofs.Run.Upcoming
import ShardClient.Proofs.Run.Watching
import ShardClient.Proofs.Sharding.Contracts
import ShardClient.Proofs.Sharding.Home
import ShardClient.Proofs.Sharding.LastByte
import ShardClient.Proofs.Submission.Completing
import ShardClient.Proofs.Submission.Handing
import ShardClient.Proofs.Submission.Polling
import ShardClient.Proofs.Submission.Record
import ShardClient.Proofs.Submission.Waiting
import ShardClient.Proofs.Transaction.Carried
import ShardClient.Proofs.Transaction.GasLimit
import ShardClient.Proofs.Transaction.Moved
import ShardClient.Proofs.Transaction.Numbers
import ShardClient.Proofs.Transaction.Orders
import ShardClient.Proofs.Transaction.Reading
import ShardClient.Proofs.Transaction.Sealed
import ShardClient.Proofs.Transaction.Unambiguous
import ShardClient.Simulation.Files
import ShardClient.Simulation.Network
