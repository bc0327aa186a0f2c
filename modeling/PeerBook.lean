import PeerBook.Text.Blank
import PeerBook.Text.CaseMap
import PeerBook.Text.Printable
import PeerBook.Text.Quoted
import PeerBook.Numeral
import PeerBook.Services
import PeerBook.Net.IpAddr
import PeerBook.Net.IpAddr.Text
import PeerBook.Net.Endpoint
import PeerBook.Net.HostPort
import PeerBook.Calendar
import PeerBook.PeerRecord
import PeerBook.Multiaddr
import PeerBook.PeerFile
import PeerBook.ServedSet
import PeerBook.Book
import PeerBook.Seed.Lookup
import PeerBook.Seed.Resolver
import PeerBook.Numeral.Binary64
import PeerBook.Duration
import PeerBook.Store.FileTree
import PeerBook.Store.KeyValue
import PeerBook.Store.Blob
import PeerBook.Discovery.Seeds
import PeerBook.Discovery.Service
import PeerBook.Discovery.Interleaving
import PeerBook.Text.SlashPath
import PeerBook.LogLevel
import PeerBook.Settings
import PeerBook.Settings.Validation
import PeerBook.Settings.File
import PeerBook.Settings.Flags
import PeerBook.Settings.Load
import PeerBook.Node.Machine
import PeerBook.Node
import PeerBook.Multiformat.Varint
import PeerBook.Multiformat.BaseN
import PeerBook.Multiformat.Multihash
import PeerBook.Main
import PeerBook.Proofs.ServedSet
import PeerBook.Proofs.NormalForm
import PeerBook.Proofs.BookInvariant
import PeerBook.Proofs.BookListing
import PeerBook.Proofs.Handout
import PeerBook.Proofs.PeerFileRoundTrip
import PeerBook.Proofs.PeerFileGrammar
import PeerBook.Proofs.SavedBook
import PeerBook.Proofs.NodeSaving
import PeerBook.Proofs.SettingsLayers
import PeerBook.Proofs.UnservedMatches
import PeerBook.Proofs.ServiceFailures
import PeerBook.Proofs.SeedResolution
import PeerBook.Proofs.CanonicalPeerFile
import PeerBook.Proofs.NumeralReading
import PeerBook.Proofs.ServiceMaskWords
import PeerBook.Proofs.ServiceMaskText
import PeerBook.Proofs.AddressText
import PeerBook.Proofs.EndpointMultiaddr
import PeerBook.Proofs.FileTreeFailures
import PeerBook.Proofs.FileValueOrder
import PeerBook.Proofs.SettingsFileReading
