import PlanetTiles.Archive.Error
import PlanetTiles.Archive.Layer
import PlanetTiles.Archive.Reader
import PlanetTiles.Archive.Toc
import PlanetTiles.Archive.Tree
import PlanetTiles.Bc1.Block
import PlanetTiles.Bytes.LittleEndian
import PlanetTiles.Cli.Args
import PlanetTiles.Cli.Run
import PlanetTiles.Config.Basic
import PlanetTiles.Dds.Error
import PlanetTiles.Dds.Flip
import PlanetTiles.Dds.Header
import PlanetTiles.Dds.MipChain
import PlanetTiles.Dds.Rgba
import PlanetTiles.Dds.Surface
import PlanetTiles.Deflate.Adler
import PlanetTiles.Deflate.Decoder
import PlanetTiles.Deflate.Inflate
import PlanetTiles.Deflate.PrefixCode
import PlanetTiles.Elevation.Header
import PlanetTiles.Elevation.Raster
import PlanetTiles.Files.Fault
import PlanetTiles.Files.Tree
import PlanetTiles.Image.Raster
import PlanetTiles.Number.Binary64
import PlanetTiles.Number.Decimal
import PlanetTiles.Number.Fixed
import PlanetTiles.Number.Shortest
import PlanetTiles.Number.Signed64
import PlanetTiles.Proofs.Ancestry
import PlanetTiles.Proofs.BlockRanges
import PlanetTiles.Proofs.Bytes
import PlanetTiles.Proofs.ReadHistory
import PlanetTiles.Proofs.ChainSize
import PlanetTiles.Proofs.ChildLookup
import PlanetTiles.Proofs.ElevationDecode
import PlanetTiles.Proofs.FetchReport
import PlanetTiles.Proofs.HeaderRoundTrip
import PlanetTiles.Proofs.KeyAlgebra
import PlanetTiles.Proofs.MaskReading
import PlanetTiles.Proofs.SurfaceChain
import PlanetTiles.Proofs.SurfaceFlip
import PlanetTiles.Proofs.SurfaceFlipTwice
import PlanetTiles.Proofs.SurfaceLayout
import PlanetTiles.Proofs.SurfaceParse
import PlanetTiles.Proofs.SurfaceRoundTrip
import PlanetTiles.Proofs.TileRead
import PlanetTiles.Proofs.TocLookup
import PlanetTiles.Proofs.TreeOpen
import PlanetTiles.Text.CharTables
import PlanetTiles.Text.Hex
import PlanetTiles.Text.Quoted
import PlanetTiles.Text.Utf8
import PlanetTiles.Tile.DecodeError
import PlanetTiles.Tile.Key
import PlanetTiles.Tile.Source
import PlanetTiles.Tile.TextureFormat
import PlanetTiles.Yaml.Chars
import PlanetTiles.Yaml.Document
import PlanetTiles.Yaml.Event
import PlanetTiles.Yaml.Event.Parse
import PlanetTiles.Yaml.Mark
import PlanetTiles.Yaml.Token
import PlanetTiles.Yaml.Token.Cursor
import PlanetTiles.Yaml.Token.Property
import PlanetTiles.Yaml.Token.Scalar
import PlanetTiles.Yaml.Token.Stream
import PlanetTiles.Yaml.Value
import PlanetTiles.Main
